import Mathlib

/-!
# Python text

A Python `str` with no lone surrogate is a list of `Char`; `PyChar` adds the surrogates, on
which `encode()` raises.  The scripts use few `str` operations: `encode()`, `str()` of an
int, and `sep.join(parts)` and `s.split(sep)`.  Split undoes join exactly when no part
holds the separator, and `str()` of an int is digits only.
-/

namespace ProtocolProbe

/-! ### `encode()` -/

/-- `s.encode()`: the UTF-8 bytes of `s`. -/
def encodeUtf8 (s : List Char) : List UInt8 := s.flatMap String.utf8EncodeChar

@[simp] theorem encodeUtf8_nil : encodeUtf8 [] = [] := rfl

@[simp] theorem encodeUtf8_cons (c : Char) (s : List Char) :
    encodeUtf8 (c :: s) = String.utf8EncodeChar c ++ encodeUtf8 s := rfl

@[simp] theorem encodeUtf8_append (s t : List Char) :
    encodeUtf8 (s ++ t) = encodeUtf8 s ++ encodeUtf8 t :=
  List.flatMap_append _ _ _

theorem length_encodeUtf8 (s : List Char) :
    (encodeUtf8 s).length = (s.map Char.utf8Size).sum := by
  induction s with
  | nil => rfl
  | cons c s ih => simp [ih]

theorem utf8Size_of_lt {c : Char} (h : c.toNat < 128) : c.utf8Size = 1 := by
  simp only [Char.utf8Size, Char.toNat] at h ⊢
  rw [if_pos (by rw [UInt32.le_def, BitVec.le_def]; exact Nat.le_of_lt_succ h)]

/-- ASCII text encodes to one byte per character. -/
theorem length_encodeUtf8_of_ascii {s : List Char} (h : ∀ c ∈ s, c.toNat < 128) :
    s.length = (encodeUtf8 s).length := by
  rw [length_encodeUtf8, List.map_congr_left fun c hc ↦ utf8Size_of_lt (h c hc)]
  simp

/-- Every character takes at least one byte, so `len(s)` never exceeds `len(s.encode())`. -/
theorem length_le_length_encodeUtf8 (s : List Char) : s.length ≤ (encodeUtf8 s).length := by
  induction s with
  | nil => rfl
  | cons c s ih =>
      have := Char.utf8Size_pos c
      simp only [encodeUtf8_cons, List.length_append, String.length_utf8EncodeChar,
        List.length_cons]
      omega

/-- A character of a Python `str`: a Unicode scalar value, which is what a `Char` is, or the
lone surrogate `0xD800 + offset`, which no `Char` is. -/
inductive PyChar
  | scalar (c : Char)
  | surrogate (offset : Fin 2048)
deriving DecidableEq, Repr

/-- The `Char` of a scalar value. -/
def PyChar.toChar? : PyChar → Option Char
  | .scalar c => some c
  | .surrogate _ => none

/-- `s.encode()` of any `str`: UTF-8, and `UnicodeEncodeError`, whose reason is
`surrogates not allowed`, at a lone surrogate. -/
def encodeStr : List PyChar → Except String (List UInt8)
  | [] => .ok []
  | .scalar c :: s => (String.utf8EncodeChar c ++ ·) <$> encodeStr s
  | .surrogate _ :: _ => .error "surrogates not allowed"

theorem encodeStr_scalar (s : List Char) : encodeStr (s.map .scalar) = .ok (encodeUtf8 s) := by
  induction s with
  | nil => rfl
  | cons c s ih => simp only [List.map_cons, encodeStr, ih, encodeUtf8_cons]; rfl

/-- `encode()` returns only for a `str` of scalar values. -/
theorem encodeStr_ok {s : List PyChar} {b : List UInt8} (h : encodeStr s = .ok b) :
    ∀ c ∈ s, ∃ ch, c = .scalar ch := by
  induction s generalizing b with
  | nil => simp
  | cons c s ih =>
      cases c with
      | surrogate _ => cases h
      | scalar ch =>
          cases hs : encodeStr s with
          | error e => rw [encodeStr, hs] at h; cases h
          | ok b' => exact List.forall_mem_cons.2 ⟨⟨ch, rfl⟩, ih hs⟩

theorem map_scalar_filterMap {s : List PyChar} (h : ∀ c ∈ s, ∃ ch, c = .scalar ch) :
    (s.filterMap PyChar.toChar?).map .scalar = s := by
  induction s with
  | nil => rfl
  | cons c s ih =>
      obtain ⟨ch, rfl⟩ := h c (List.mem_cons_self _ _)
      simp [PyChar.toChar?, ih fun c hc ↦ h c (List.mem_cons_of_mem _ hc)]

/-! ### `split(sep)` over a mapped text -/

theorem splitOnP_map {α β : Type} (f : α → β) (p : β → Bool) (l : List α) :
    (l.map f).splitOnP p = (l.splitOnP (p ∘ f)).map (List.map f) := by
  induction l with
  | nil => rfl
  | cons x xs ih =>
      rw [List.map_cons, List.splitOnP_cons, List.splitOnP_cons, ih, Function.comp_apply]
      split
      · rfl
      · obtain ⟨hd, tl, heq⟩ := List.exists_cons_of_ne_nil (List.splitOnP_ne_nil (p ∘ f) xs)
        simp [heq]

theorem splitOn_map_scalar (s : List Char) :
    (s.map PyChar.scalar).splitOn (.scalar '.') = (s.splitOn '.').map (List.map .scalar) := by
  rw [List.splitOn, splitOnP_map]
  congr 2
  funext c
  simp [Function.comp, beq_iff_eq]

/-- Every element that is not a separator lies in one of the parts. -/
theorem exists_mem_splitOnP {α : Type} {p : α → Bool} {c : α} {l : List α} (hc : c ∈ l)
    (hp : p c = false) : ∃ part ∈ l.splitOnP p, c ∈ part := by
  induction l with
  | nil => cases hc
  | cons x xs ih =>
      obtain ⟨hd, tl, heq⟩ := List.exists_cons_of_ne_nil (List.splitOnP_ne_nil p xs)
      rw [List.splitOnP_cons, heq]
      rcases List.mem_cons.mp hc with rfl | hc
      · simp [hp]
      · obtain ⟨part, hpart, hcp⟩ := ih hc
        rw [heq] at hpart
        split
        · exact ⟨part, List.mem_cons_of_mem _ hpart, hcp⟩
        · rcases List.mem_cons.mp hpart with rfl | hpart
          · exact ⟨x :: part, List.mem_cons_self _ _, List.mem_cons_of_mem _ hcp⟩
          · exact ⟨part, List.mem_cons_of_mem _ hpart, hcp⟩

/-! ### `str()` of an int -/

theorem toDigitsCore_acc (f n : Nat) (ds : List Char) :
    Nat.toDigitsCore 10 f n ds = Nat.toDigitsCore 10 f n [] ++ ds := by
  induction f generalizing n ds with
  | zero => rfl
  | succ f ih =>
      simp only [Nat.toDigitsCore]
      split
      · rfl
      · rw [ih _ (_ :: ds), ih _ [_], List.append_assoc, List.singleton_append]

/-- The fuel of `Nat.toDigitsCore` does not matter once it exceeds the number. -/
theorem toDigitsCore_fuel {f g n : Nat} (hf : n < f) (hg : n < g) (ds : List Char) :
    Nat.toDigitsCore 10 f n ds = Nat.toDigitsCore 10 g n ds := by
  induction f generalizing g n ds with
  | zero => omega
  | succ f ih =>
      obtain ⟨g, rfl⟩ : ∃ g', g = g' + 1 := ⟨g - 1, by omega⟩
      simp only [Nat.toDigitsCore]
      split
      · rfl
      · exact ih (by omega) (by omega) _

theorem toDigits_of_lt {n : Nat} (h : n < 10) : Nat.toDigits 10 n = [Nat.digitChar n] := by
  simp [Nat.toDigits, Nat.toDigitsCore, Nat.div_eq_of_lt h, Nat.mod_eq_of_lt h]

theorem toDigits_of_le {n : Nat} (h : 10 ≤ n) :
    Nat.toDigits 10 n = Nat.toDigits 10 (n / 10) ++ [Nat.digitChar (n % 10)] := by
  rw [Nat.toDigits, Nat.toDigitsCore, if_neg (by omega), toDigitsCore_acc, Nat.toDigits,
    toDigitsCore_fuel (g := n / 10 + 1) (by omega) (by omega)]

theorem toNat_digitChar {n : Nat} (h : n < 10) : (Nat.digitChar n).toNat = n + 48 := by
  interval_cases n <;> rfl

theorem digitChar_inj {a b : Nat} (ha : a < 10) (hb : b < 10)
    (h : Nat.digitChar a = Nat.digitChar b) : a = b := by
  have := congrArg Char.toNat h
  rw [toNat_digitChar ha, toNat_digitChar hb] at this
  omega

theorem toDigits_ne_nil (n : Nat) : Nat.toDigits 10 n ≠ [] := by
  rcases Nat.lt_or_ge n 10 with h | h
  · simp [toDigits_of_lt h]
  · simp [toDigits_of_le h]

/-- Every character of `str(n)` is a decimal digit. -/
theorem toNat_of_mem_toDigits {n : Nat} {c : Char} (hc : c ∈ Nat.toDigits 10 n) :
    48 ≤ c.toNat ∧ c.toNat < 58 := by
  induction n using Nat.strong_induction_on with
  | _ n ih =>
      rcases Nat.lt_or_ge n 10 with h | h
      · rw [toDigits_of_lt h, List.mem_singleton] at hc
        subst hc
        rw [toNat_digitChar h]
        omega
      · rw [toDigits_of_le h, List.mem_append, List.mem_singleton] at hc
        rcases hc with hc | rfl
        · exact ih _ (by omega) hc
        · rw [toNat_digitChar (Nat.mod_lt n (by omega))]
          omega

/-- `str(n)` determines `n`. -/
theorem toDigits_injective : Function.Injective (Nat.toDigits 10) := by
  intro n
  induction n using Nat.strong_induction_on with
  | _ n ih =>
      intro m hnm
      have hlen := congrArg List.length hnm
      rcases Nat.lt_or_ge n 10 with hn | hn <;> rcases Nat.lt_or_ge m 10 with hm | hm
      · rw [toDigits_of_lt hn, toDigits_of_lt hm, List.singleton_inj] at hnm
        exact digitChar_inj hn hm hnm
      · simp [toDigits_of_lt hn, toDigits_of_le hm, toDigits_ne_nil] at hlen
      · simp [toDigits_of_le hn, toDigits_of_lt hm, toDigits_ne_nil] at hlen
      · rw [toDigits_of_le hn, toDigits_of_le hm] at hnm
        obtain ⟨hq, hr⟩ := List.append_inj' hnm rfl
        have := ih _ (by omega) hq
        have := digitChar_inj (Nat.mod_lt n (by omega)) (Nat.mod_lt m (by omega))
          (List.singleton_inj.mp hr)
        omega

/-- A character outside `0`..`9` never occurs in `str(n)`. -/
theorem not_mem_toDigits {c : Char} (hc : c.toNat < 48 ∨ 58 ≤ c.toNat) (n : Nat) :
    c ∉ Nat.toDigits 10 n := fun h ↦ by
  have := toNat_of_mem_toDigits h
  omega

/-! ### `join` and `split` -/

theorem length_splitOn (sep : Char) (s : List Char) :
    (s.splitOn sep).length = s.count sep + 1 := by
  induction s with
  | nil => rfl
  | cons c s ih =>
      simp only [List.splitOn, List.splitOnP_cons, List.count_cons] at ih ⊢
      split
      · simp_all
      · simp_all

theorem intercalate_cons_cons (sep : Char) (a b : List Char) (ls : List (List Char)) :
    [sep].intercalate (a :: b :: ls) = a ++ sep :: [sep].intercalate (b :: ls) := by
  simp [List.intercalate, List.intersperse_cons_cons]

theorem count_intercalate (sep : Char) (a : List Char) (ls : List (List Char)) :
    ([sep].intercalate (a :: ls)).count sep = ((a :: ls).map (·.count sep)).sum + ls.length := by
  induction ls generalizing a with
  | nil => simp [List.intercalate]
  | cons b ls ih =>
      rw [intercalate_cons_cons, List.count_append, List.count_cons_self, ih]
      simp only [List.map_cons, List.sum_cons, List.length_cons]
      omega

/-- Splitting a join gives back its parts exactly when no part holds the separator. -/
theorem splitOn_intercalate_iff {sep : Char} {ls : List (List Char)} (h : ls ≠ []) :
    ([sep].intercalate ls).splitOn sep = ls ↔ ∀ l ∈ ls, sep ∉ l := by
  refine ⟨fun hs ↦ ?_, fun hl ↦ List.splitOn_intercalate _ sep hl h⟩
  obtain ⟨a, ls, rfl⟩ := List.exists_cons_of_ne_nil h
  have hlen := congrArg List.length hs
  rw [length_splitOn, count_intercalate, List.length_cons] at hlen
  have hzero : ((a :: ls).map (·.count sep)).sum = 0 := by omega
  intro l hl
  exact List.count_eq_zero.mp (List.sum_eq_zero_iff.mp hzero _ (List.mem_map_of_mem _ hl))

end ProtocolProbe
