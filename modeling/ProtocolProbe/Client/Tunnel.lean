import ProtocolProbe.Wire.Text

/-!
# The checks of `test_dns_tunnel.py`

`DnsTunnelTester` runs the `nooshdaroo` binary and decides from the text it prints.
`generate_keys` keeps what follows `private key:` and `public key:` on the lines of the
output of `genkey`, a later line overriding an earlier one (`readKeys_last`).  For any
output whose lines are the two key lines and lines with neither marker, in any order, it
gets both keys back (`generateKeys_lines`), provided the public key does not hold
`private key:` and neither key holds its own marker.  `test_tunnel` looks for `200`
anywhere in what `curl` printed, so the digits of the size or the time count as well as
the status (`testTunnel_report`).
-/

namespace ProtocolProbe.Client

/-! ### `strip()`, `in` and `split(sep)` -/

/-- `str.isspace` of one character, the characters `strip()` takes off: tab, line feed,
vertical tab, form feed, carriage return, the separators `\x1c` to `\x1f`, space, and the
Unicode spaces. -/
def isSpace (c : Char) : Bool :=
  c.toNat ∈ [9, 10, 11, 12, 13, 28, 29, 30, 31, 32, 133, 160, 5760, 8192, 8193, 8194, 8195,
    8196, 8197, 8198, 8199, 8200, 8201, 8202, 8232, 8233, 8239, 8287, 12288]

/-- `s.strip()`. -/
def strip (s : List Char) : List Char :=
  ((s.dropWhile isSpace).reverse.dropWhile isSpace).reverse

/-- Where `sep`, which is not empty, first occurs in `s`: the text before it and the text
after it. -/
def breakOn (sep : List Char) : List Char → Option (List Char × List Char)
  | [] => none
  | c :: s =>
      if sep <+: c :: s then some ([], (c :: s).drop sep.length)
      else (breakOn sep s).map fun p ↦ (c :: p.1, p.2)

/-- `s.split(sep)[1]`: the text between the first two occurrences of `sep`, or after the
first when there is no second.  Behind a test `sep in s` the `IndexError` of a text without
`sep` is not reached; it gives `[]` here. -/
def splitSecond (sep s : List Char) : List Char :=
  match breakOn sep s with
  | none => []
  | some (_, after) =>
      match breakOn sep after with
      | none => after
      | some (piece, _) => piece

theorem breakOn_of_prefix {sep s : List Char} (h : sep <+: s) (hs : s ≠ []) :
    breakOn sep s = some ([], s.drop sep.length) := by
  obtain ⟨c, s, rfl⟩ := List.exists_cons_of_ne_nil hs
  exact if_pos h

theorem breakOn_append {sep a : List Char}
    (h : ∀ j < a.length, ¬sep <+: a.drop j ∧ ¬a.drop j <+: sep) (b : List Char) :
    breakOn sep (a ++ b) = (breakOn sep b).map fun p ↦ (a ++ p.1, p.2) := by
  induction a with
  | nil => simp
  | cons c a ih =>
      have hc := h 0 (Nat.succ_pos _)
      have hnot : ¬sep <+: c :: (a ++ b) := fun hp ↦
        (List.prefix_or_prefix_of_prefix hp (List.prefix_append (c :: a) b)).elim hc.1 hc.2
      rw [List.cons_append, breakOn, if_neg hnot,
        ih fun j hj ↦ h (j + 1) (Nat.succ_lt_succ hj), Option.map_map]
      rfl

theorem breakOn_append_singleton {sep : List Char} (hsep : sep ≠ []) {c : Char}
    (hc : sep.getLast? ≠ some c) (s : List Char) :
    breakOn sep (s ++ [c]) = (breakOn sep s).map fun p ↦ (p.1, p.2 ++ [c]) := by
  have hstart : ∀ t : List Char, sep <+: t ++ [c] ↔ sep <+: t := fun t ↦
    ⟨fun h ↦ (List.prefix_concat_iff.mp h).resolve_left
      fun h ↦ hc (h ▸ List.getLast?_concat t),
      fun h ↦ h.trans (List.prefix_append _ _)⟩
  induction s with
  | nil =>
      have hnot : ¬sep <+: [c] := fun h ↦ hsep (List.prefix_nil.mp ((hstart []).mp h))
      simp only [List.nil_append, breakOn, if_neg hnot, Option.map_none']
  | cons x s ih =>
      rw [List.cons_append, breakOn, breakOn, ih]
      by_cases hp : sep <+: x :: s
      · rw [if_pos (show sep <+: x :: (s ++ [c]) from (hstart (x :: s)).mpr hp), if_pos hp,
          ← List.cons_append, List.drop_append_of_le_length hp.length_le]
        rfl
      · rw [if_neg (show ¬sep <+: x :: (s ++ [c]) from (hstart (x :: s)).not.mpr hp), if_neg hp,
          Option.map_map, Option.map_map]
        rfl

theorem breakOn_cons_of_head {sep : List Char} (hsep : sep ≠ []) {c : Char}
    (hc : sep.head? ≠ some c) (s : List Char) :
    breakOn sep (c :: s) = (breakOn sep s).map fun p ↦ (c :: p.1, p.2) := by
  have hnot : ¬sep <+: c :: s := fun h ↦ by
    rcases List.prefix_cons_iff.mp h with h | ⟨t, rfl, _⟩
    · exact hsep h
    · exact hc rfl
  exact if_neg hnot

theorem isSome_breakOn {sep : List Char} (hsep : sep ≠ []) (s : List Char) :
    (breakOn sep s).isSome ↔ sep <:+: s := by
  induction s with
  | nil => simpa [breakOn] using hsep
  | cons c s ih =>
      rw [breakOn, List.infix_cons_iff]
      split
      · next hp => simpa using Or.inl hp
      · next hp => simpa [hp] using ih

theorem infix_cons_iff_of_head {sep : List Char} (hsep : sep ≠ []) {c : Char}
    (hc : sep.head? ≠ some c) (s : List Char) : sep <:+: c :: s ↔ sep <:+: s := by
  rw [← isSome_breakOn hsep, ← isSome_breakOn hsep, breakOn_cons_of_head hsep hc,
    Option.isSome_map']

theorem infix_append_singleton_iff {sep : List Char} (hsep : sep ≠ []) {c : Char}
    (hc : sep.getLast? ≠ some c) (s : List Char) : sep <:+: s ++ [c] ↔ sep <:+: s := by
  rw [← isSome_breakOn hsep, ← isSome_breakOn hsep, breakOn_append_singleton hsep hc,
    Option.isSome_map']

theorem strip_cons {c : Char} (hc : isSpace c) (s : List Char) : strip (c :: s) = strip s := by
  rw [strip, List.dropWhile_cons_of_pos hc, strip]

theorem strip_append_singleton {c : Char} (hc : isSpace c) (s : List Char) :
    strip (s ++ [c]) = strip s := by
  rw [strip, strip, List.dropWhile_append]
  split
  · next h =>
      rw [List.dropWhile_cons_of_pos hc, List.isEmpty_iff.mp h]
      rfl
  · rw [List.reverse_append, List.reverse_singleton, List.singleton_append,
      List.dropWhile_cons_of_pos hc]

theorem splitSecond_cons {sep : List Char} (hsep : sep ≠ []) {c : Char}
    (hc : sep.head? ≠ some c) (s : List Char) : splitSecond sep (c :: s) = splitSecond sep s := by
  rw [splitSecond, splitSecond, breakOn_cons_of_head hsep hc]
  cases breakOn sep s <;> rfl

theorem strip_splitSecond_append {sep : List Char} (hsep : sep ≠ []) {c : Char}
    (hc : sep.getLast? ≠ some c) (hspace : isSpace c) (s : List Char) :
    strip (splitSecond sep (s ++ [c])) = strip (splitSecond sep s) := by
  rw [splitSecond, splitSecond, breakOn_append_singleton hsep hc]
  rcases breakOn sep s with _ | ⟨_, after⟩
  · rfl
  · dsimp only [Option.map_some']
    rw [breakOn_append_singleton hsep hc]
    rcases breakOn sep after with _ | ⟨piece, _⟩
    · exact strip_append_singleton hspace after
    · rfl

/-! ### `generate_keys` -/

/-- `self.private_key` and `self.public_key`, the attributes `generate_keys` sets. -/
structure Keys where
  privateKey : Option (List Char)
  publicKey : Option (List Char)
deriving DecidableEq, Repr

/-- One pass of the loop of `generate_keys`, on one line of the output. -/
def readLine (keys : Keys) (line : List Char) : Keys :=
  if "private key:".toList <:+: line then
    { keys with privateKey := some (strip (splitSecond "private key:".toList line)) }
  else if "public key:".toList <:+: line then
    { keys with publicKey := some (strip (splitSecond "public key:".toList line)) }
  else keys

/-- The loop of `generate_keys` over the lines, from the attributes `__init__` sets. -/
def readKeys (lines : List (List Char)) : Keys := lines.foldl readLine ⟨none, none⟩

/-- `generate_keys` on what `genkey` wrote to stdout and to stderr: the two keys, or `none`
where it exits because one of them is missing or empty. -/
def generateKeys (stdout stderr : List Char) : Option (List Char × List Char) :=
  match readKeys ((strip (stdout ++ stderr)).splitOn '\n') with
  | ⟨some privateKey, some publicKey⟩ =>
      if privateKey = [] ∨ publicKey = [] then none else some (privateKey, publicKey)
  | _ => none

theorem readLine_nil (keys : Keys) : readLine keys [] = keys := by
  simp [readLine]

theorem readLine_cons {c : Char} (hc : isSpace c) (keys : Keys) (line : List Char) :
    readLine keys (c :: line) = readLine keys line := by
  have hp : ∀ sep : List Char, sep.head? = some 'p' → sep.head? ≠ some c :=
    fun sep h hne ↦ by
      rw [h, Option.some.injEq] at hne
      exact absurd (hne ▸ hc) (by decide)
  have hpriv : "private key:".toList ≠ [] := by decide
  have hpub : "public key:".toList ≠ [] := by decide
  simp only [readLine, infix_cons_iff_of_head hpriv (hp _ (by decide)),
    infix_cons_iff_of_head hpub (hp _ (by decide)), splitSecond_cons hpriv (hp _ (by decide)),
    splitSecond_cons hpub (hp _ (by decide))]

theorem readLine_append_singleton {c : Char} (hc : isSpace c) (keys : Keys)
    (line : List Char) : readLine keys (line ++ [c]) = readLine keys line := by
  have hcolon : ∀ sep : List Char, sep.getLast? = some ':' → sep.getLast? ≠ some c :=
    fun sep h hne ↦ by
      rw [h, Option.some.injEq] at hne
      exact absurd (hne ▸ hc) (by decide)
  have hpriv : "private key:".toList ≠ [] := by decide
  have hpub : "public key:".toList ≠ [] := by decide
  simp only [readLine, infix_append_singleton_iff hpriv (hcolon _ (by decide)),
    infix_append_singleton_iff hpub (hcolon _ (by decide)),
    strip_splitSecond_append hpriv (hcolon _ (by decide)) hc,
    strip_splitSecond_append hpub (hcolon _ (by decide)) hc]

/-! ### The lines of the output -/

theorem modifyHead_id' {α : Type} (ls : List α) : ls.modifyHead (fun l ↦ l) = ls := by
  cases ls <;> rfl

theorem getLast?_cons_map_or {α β : Type} (a : α) (l : List α) (f : α → β) (o : Option β) :
    ((a :: l).getLast?.map f).or o = (l.getLast?.map f).or (some (f a)) := by
  rw [List.getLast?_cons]
  cases l.getLast? <;> rfl

theorem foldl_readLine_cons {c : Char} (hc : isSpace c) (keys : Keys) (t : List Char) :
    ((c :: t).splitOn '\n').foldl readLine keys = (t.splitOn '\n').foldl readLine keys := by
  simp only [List.splitOn, List.splitOnP_cons]
  split
  · rw [List.foldl_cons, readLine_nil]
  · obtain ⟨l, ls, hls⟩ := List.exists_cons_of_ne_nil (List.splitOnP_ne_nil (· == '\n') t)
    rw [hls, List.modifyHead_cons, List.foldl_cons, List.foldl_cons, readLine_cons hc]

theorem foldl_readLine_dropWhile (keys : Keys) (t : List Char) :
    ((t.dropWhile isSpace).splitOn '\n').foldl readLine keys =
      (t.splitOn '\n').foldl readLine keys := by
  induction t with
  | nil => rfl
  | cons c t ih =>
      by_cases hc : isSpace c
      · rw [List.dropWhile_cons_of_pos hc, ih, foldl_readLine_cons hc]
      · rw [List.dropWhile_cons_of_neg hc]

theorem foldl_readLine_append {c : Char} (hc : isSpace c) (keys : Keys) (pre t : List Char) :
    (((t ++ [c]).splitOn '\n').modifyHead (pre ++ ·)).foldl readLine keys =
      ((t.splitOn '\n').modifyHead (pre ++ ·)).foldl readLine keys := by
  induction t generalizing keys pre with
  | nil =>
      simp only [List.nil_append, List.splitOn, List.splitOnP_cons, List.splitOnP_nil]
      split
      · simp [readLine_nil]
      · simp [readLine_append_singleton hc]
  | cons x t ih =>
      simp only [List.cons_append, List.splitOn, List.splitOnP_cons] at ih ⊢
      split
      · have h := ih (readLine keys pre) []
        simp only [List.nil_append, modifyHead_id'] at h
        simpa only [List.modifyHead_cons, List.append_nil, List.foldl_cons] using h
      · have hpre : (pre ++ ·) ∘ List.cons x = ((pre ++ [x]) ++ ·) := funext fun l ↦ by simp
        rw [List.modifyHead_modifyHead, List.modifyHead_modifyHead, hpre]
        exact ih keys (pre ++ [x])

theorem foldl_readLine_dropWhile_reverse (keys : Keys) (u : List Char) :
    (((u.dropWhile isSpace).reverse).splitOn '\n').foldl readLine keys =
      (u.reverse.splitOn '\n').foldl readLine keys := by
  induction u with
  | nil => rfl
  | cons c u ih =>
      by_cases hc : isSpace c
      · have h := foldl_readLine_append hc keys [] u.reverse
        simp only [List.nil_append, modifyHead_id'] at h
        rw [List.dropWhile_cons_of_pos hc, ih, List.reverse_cons, h]
      · rw [List.dropWhile_cons_of_neg hc]

/-- Stripping the whole output first changes no key that `generate_keys` reads. -/
theorem readKeys_strip (t : List Char) :
    readKeys ((strip t).splitOn '\n') = readKeys (t.splitOn '\n') := by
  rw [readKeys, readKeys, strip, foldl_readLine_dropWhile_reverse, List.reverse_reverse,
    foldl_readLine_dropWhile]

theorem foldl_readLine (lines : List (List Char)) (keys : Keys) :
    lines.foldl readLine keys =
      ⟨((lines.filter ("private key:".toList <:+: ·)).getLast?.map
          fun l ↦ strip (splitSecond "private key:".toList l)).or keys.privateKey,
        ((lines.filter fun l ↦ ¬"private key:".toList <:+: l ∧
            "public key:".toList <:+: l).getLast?.map
          fun l ↦ strip (splitSecond "public key:".toList l)).or keys.publicKey⟩ := by
  induction lines generalizing keys with
  | nil => rfl
  | cons l lines ih =>
      rw [List.foldl_cons, ih]
      by_cases h₁ : "private key:".toList <:+: l
      · simp only [readLine, if_pos h₁, List.filter_cons, decide_eq_true_eq, h₁,
          not_true_eq_false, false_and, if_true, if_false, getLast?_cons_map_or]
      · by_cases h₂ : "public key:".toList <:+: l
        · simp only [readLine, if_neg h₁, if_pos h₂, List.filter_cons, decide_eq_true_eq, h₁,
            h₂, not_false_eq_true, and_self, if_true, if_false, getLast?_cons_map_or]
        · simp only [readLine, if_neg h₁, if_neg h₂, List.filter_cons, decide_eq_true_eq, h₁,
            h₂, and_false, if_false]

/-- The loop of `generate_keys` keeps, for each key, what follows the marker on the last line
that sets it: the last line holding `private key:`, and the last line holding `public key:`
and not `private key:`. -/
theorem readKeys_last (lines : List (List Char)) :
    readKeys lines =
      ⟨(lines.filter ("private key:".toList <:+: ·)).getLast?.map
          fun l ↦ strip (splitSecond "private key:".toList l),
        (lines.filter fun l ↦ ¬"private key:".toList <:+: l ∧
            "public key:".toList <:+: l).getLast?.map
          fun l ↦ strip (splitSecond "public key:".toList l)⟩ := by
  rw [readKeys, foldl_readLine, Option.or_none, Option.or_none]

theorem strip_splitSecond_marker {sep : List Char} (hsep : sep ≠ [])
    (hspace : sep.head? ≠ some ' ') {value : List Char} (hvalue : ¬sep <:+: value) :
    strip (splitSecond sep (sep ++ ' ' :: value)) = strip value := by
  have hnone : breakOn sep value = none := by
    rw [← Option.not_isSome_iff_eq_none, isSome_breakOn hsep]
    exact hvalue
  rw [splitSecond, breakOn_of_prefix (List.prefix_append _ _) (by simp [hsep]),
    List.drop_left]
  dsimp only
  rw [breakOn_cons_of_head hsep hspace, hnone, Option.map_none', strip_cons (by decide)]

theorem readKeys_keyLines {lines others : List (List Char)} {privateKey publicKey : List Char}
    (hlines : lines.Perm (("private key: ".toList ++ privateKey) ::
      ("public key: ".toList ++ publicKey) :: others))
    (hothers : ∀ l ∈ others, ¬"private key:".toList <:+: l ∧ ¬"public key:".toList <:+: l)
    (hpublic : ¬"private key:".toList <:+: publicKey) :
    readKeys lines =
      ⟨some (strip (splitSecond "private key:".toList ("private key: ".toList ++ privateKey))),
        some (strip (splitSecond "public key:".toList
          ("public key: ".toList ++ publicKey)))⟩ := by
  have hprivLine : "private key:".toList <:+: "private key: ".toList ++ privateKey :=
    (List.prefix_append "private key:".toList (' ' :: privateKey)).isInfix
  have hpubLine : "public key:".toList <:+: "public key: ".toList ++ publicKey :=
    (List.prefix_append "public key:".toList (' ' :: publicKey)).isInfix
  have hpubLine' : ¬"private key:".toList <:+: "public key: ".toList ++ publicKey := by
    have hpriv : "private key:".toList ≠ [] := by decide
    rw [← isSome_breakOn hpriv, breakOn_append (by decide), Option.isSome_map',
      isSome_breakOn hpriv]
    exact hpublic
  have hfilter₁ : lines.filter ("private key:".toList <:+: ·) =
      ["private key: ".toList ++ privateKey] := by
    refine List.perm_singleton.mp ((hlines.filter _).trans ?_)
    rw [List.filter_cons_of_pos (by simpa using hprivLine),
      List.filter_cons_of_neg (by simpa using hpubLine'),
      List.filter_eq_nil_iff.mpr fun l hl ↦ by simpa using (hothers l hl).1]
  have hfilter₂ : (lines.filter fun l ↦ ¬"private key:".toList <:+: l ∧
      "public key:".toList <:+: l) = ["public key: ".toList ++ publicKey] := by
    refine List.perm_singleton.mp ((hlines.filter _).trans ?_)
    rw [List.filter_cons_of_neg (by exact fun h ↦ (of_decide_eq_true h).1 hprivLine),
      List.filter_cons_of_pos (by exact decide_eq_true ⟨hpubLine', hpubLine⟩),
      List.filter_eq_nil_iff.mpr fun l hl ↦ by simpa using fun _ ↦ (hothers l hl).2]
  rw [readKeys, foldl_readLine, hfilter₁, hfilter₂]
  rfl

/-- For an output whose lines are a `private key: ` line, a `public key: ` line and lines
that hold neither marker, in any order, `generate_keys` reads both keys back, as long as
neither key has whitespace at its ends or holds its own marker, and the public key does not
hold `private key:`. -/
theorem generateKeys_lines {stdout stderr : List Char} {lines others : List (List Char)}
    {privateKey publicKey : List Char}
    (hout : stdout ++ stderr = ['\n'].intercalate lines)
    (hlines : lines.Perm (("private key: ".toList ++ privateKey) ::
      ("public key: ".toList ++ publicKey) :: others))
    (hnewline : ∀ l ∈ lines, '\n' ∉ l)
    (hothers : ∀ l ∈ others, ¬"private key:".toList <:+: l ∧ ¬"public key:".toList <:+: l)
    (hprivate : privateKey ≠ [] ∧ strip privateKey = privateKey ∧
      ¬"private key:".toList <:+: privateKey)
    (hpublic : publicKey ≠ [] ∧ strip publicKey = publicKey ∧
      ¬"private key:".toList <:+: publicKey ∧ ¬"public key:".toList <:+: publicKey) :
    generateKeys stdout stderr = some (privateKey, publicKey) := by
  have hsplit : (stdout ++ stderr).splitOn '\n' = lines := by
    rw [hout]
    exact List.splitOn_intercalate _ _ hnewline
      (List.ne_nil_of_length_pos (by rw [hlines.length_eq]; exact Nat.succ_pos _))
  have hvalue₁ :
      strip (splitSecond "private key:".toList ("private key: ".toList ++ privateKey)) =
        privateKey :=
    (strip_splitSecond_marker (by decide) (by decide) hprivate.2.2).trans hprivate.2.1
  have hvalue₂ : strip (splitSecond "public key:".toList ("public key: ".toList ++ publicKey)) =
      publicKey :=
    (strip_splitSecond_marker (by decide) (by decide) hpublic.2.2.2).trans hpublic.2.1
  rw [generateKeys, readKeys_strip, hsplit, readKeys_keyLines hlines hothers hpublic.2.2.1,
    hvalue₁, hvalue₂]
  exact if_neg (not_or.mpr ⟨hprivate.1, hpublic.1⟩)

theorem generateKeys_genkey :
    "Generated keypair\nprivate key: a1B2\npublic key: c3D4\n".toList ++ [] =
        ['\n'].intercalate ["Generated keypair".toList, "private key: a1B2".toList,
          "public key: c3D4".toList, []] ∧
      ["Generated keypair".toList, "private key: a1B2".toList, "public key: c3D4".toList,
          []].Perm (("private key: ".toList ++ "a1B2".toList) ::
        ("public key: ".toList ++ "c3D4".toList) :: ["Generated keypair".toList, []]) ∧
      (∀ l ∈ ["Generated keypair".toList, "private key: a1B2".toList, "public key: c3D4".toList,
          []], '\n' ∉ l) ∧
      (∀ l ∈ ["Generated keypair".toList, []],
        ¬"private key:".toList <:+: l ∧ ¬"public key:".toList <:+: l) ∧
      ("a1B2".toList ≠ [] ∧ strip "a1B2".toList = "a1B2".toList ∧
        ¬"private key:".toList <:+: "a1B2".toList) ∧
      ("c3D4".toList ≠ [] ∧ strip "c3D4".toList = "c3D4".toList ∧
        ¬"private key:".toList <:+: "c3D4".toList ∧
        ¬"public key:".toList <:+: "c3D4".toList) ∧
      generateKeys "Generated keypair\nprivate key: a1B2\npublic key: c3D4\n".toList [] =
        some ("a1B2".toList, "c3D4".toList) :=
  have hout : "Generated keypair\nprivate key: a1B2\npublic key: c3D4\n".toList ++ [] =
      ['\n'].intercalate ["Generated keypair".toList, "private key: a1B2".toList,
        "public key: c3D4".toList, []] := by decide
  have hlines : ["Generated keypair".toList, "private key: a1B2".toList,
      "public key: c3D4".toList, []].Perm (("private key: ".toList ++ "a1B2".toList) ::
        ("public key: ".toList ++ "c3D4".toList) :: ["Generated keypair".toList, []]) := by decide
  have hnewline : ∀ l ∈ ["Generated keypair".toList, "private key: a1B2".toList,
      "public key: c3D4".toList, []], '\n' ∉ l := by decide
  have hothers : ∀ l ∈ ["Generated keypair".toList, []],
      ¬"private key:".toList <:+: l ∧ ¬"public key:".toList <:+: l := by decide
  have hprivate : "a1B2".toList ≠ [] ∧ strip "a1B2".toList = "a1B2".toList ∧
      ¬"private key:".toList <:+: "a1B2".toList := by decide
  have hpublic : "c3D4".toList ≠ [] ∧ strip "c3D4".toList = "c3D4".toList ∧
      ¬"private key:".toList <:+: "c3D4".toList ∧ ¬"public key:".toList <:+: "c3D4".toList := by
    decide
  ⟨hout, hlines, hnewline, hothers, hprivate, hpublic,
    generateKeys_lines hout hlines hnewline hothers hprivate hpublic⟩

/-! ### `test_tunnel` -/

/-- What `curl -w` prints for the format `test_tunnel` gives it, from the status code, the
size downloaded and the total time it substitutes. -/
def curlReport (httpCode sizeDownload timeTotal : List Char) : List Char :=
  "HTTP Status: ".toList ++ httpCode ++ "\nSize: ".toList ++ sizeDownload ++
    " bytes\nTime: ".toList ++ timeTotal ++ "s\n".toList

/-- `test_tunnel`'s verdict on what `curl` printed: `'200' in result.stdout`. -/
def testTunnel (stdout : List Char) : Bool := decide ("200".toList <:+: stdout)

theorem infix_append_left {p m : List Char} (hp : p ≠ []) (hm : ∀ c ∈ m, c ∉ p)
    (b : List Char) : p <:+: m ++ b ↔ p <:+: b := by
  induction m with
  | nil => rfl
  | cons c m ih =>
      rw [List.cons_append, List.infix_cons_iff, ih fun d hd ↦ hm d (List.mem_cons_of_mem _ hd)]
      refine ⟨fun h ↦ h.resolve_left fun hpre ↦ ?_, Or.inr⟩
      rcases List.prefix_cons_iff.mp hpre with rfl | ⟨t, rfl, _⟩
      · exact hp rfl
      · exact hm c (List.mem_cons_self _ _) (List.mem_cons_self _ _)

theorem infix_append_sep {p m : List Char} (hp : p ≠ []) (hm : ∀ c ∈ m, c ∉ p)
    (hm' : m ≠ []) (a b : List Char) : p <:+: a ++ (m ++ b) ↔ p <:+: a ∨ p <:+: b := by
  induction a with
  | nil => simp [infix_append_left hp hm, hp]
  | cons x a ih =>
      have hstart : p <+: x :: (a ++ (m ++ b)) ↔ p <+: x :: a := by
        refine ⟨fun h ↦ ?_, fun h ↦ h.trans (List.prefix_append _ _)⟩
        rcases List.prefix_or_prefix_of_prefix h (List.prefix_append (x :: a) (m ++ b)) with
          h' | ⟨r, rfl⟩
        · exact h'
        · rcases r with _ | ⟨d, r⟩
          · rw [List.append_nil]
          · obtain ⟨c, m, rfl⟩ := List.exists_cons_of_ne_nil hm'
            have hd := (List.cons_prefix_cons.mp ((List.prefix_append_right_inj _).mp h)).1
            subst hd
            exact absurd (List.mem_append_right _ (List.mem_cons_self d r))
              (hm d (List.mem_cons_self _ _))
      rw [List.cons_append, List.infix_cons_iff, ih, List.infix_cons_iff, hstart, or_assoc]

/-- `test_tunnel` passes exactly when `200` occurs in the status code, the size or the time
that `curl` reports, whatever the status: no separator of the report holds a digit, so no
occurrence runs across one. -/
theorem testTunnel_report (httpCode sizeDownload timeTotal : List Char) :
    testTunnel (curlReport httpCode sizeDownload timeTotal) = true ↔
      "200".toList <:+: httpCode ∨ "200".toList <:+: sizeDownload ∨
        "200".toList <:+: timeTotal := by
  have h200 : "200".toList ≠ [] := by decide
  have hend := infix_append_sep h200 (m := "s\n".toList) (by decide) (by decide) timeTotal []
  rw [List.infix_nil, or_iff_left h200, List.append_nil] at hend
  rw [testTunnel, decide_eq_true_iff, curlReport]
  simp only [List.append_assoc]
  rw [infix_append_left h200 (by decide), infix_append_sep h200 (by decide) (by decide),
    infix_append_sep h200 (by decide) (by decide), hend]

/-- A request that failed, status `000`, after 15.2 seconds passes. -/
example : testTunnel (curlReport "000".toList "0".toList "15.200451".toList) = true := by
  decide

end ProtocolProbe.Client
