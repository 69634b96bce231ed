import ProtocolProbe.Analyzer.Log

/-!
# The log file written at shutdown

On `KeyboardInterrupt` the analyzer takes the lock and writes its log as delimited text.
The file is a header line naming seven columns, then one line per entry whose seven fields
are joined with `,`.  Reading the file back means splitting at `\n` and then at `,`.  That
recovers the lines when no field holds a newline, and a line's fields when no field holds
a comma.  The client field is `str(addr)`, and that text always holds a comma.
-/

namespace ProtocolProbe.Analyzer

/-- The fields of an entry, in the order the header names them. -/
def LogEntry.fields (e : LogEntry) : List (List Char) :=
  [e.timestamp, Nat.toDigits 10 e.port, e.protocol, e.client, Nat.toDigits 10 e.dataLen,
    e.dataHex, e.status]

/-- `f"{entry['timestamp']},{entry['port']},...,{entry['status']}"`, the line written for an
entry, without its newline. -/
def eventLine (e : LogEntry) : List Char := [','].intercalate e.fields

/-- The header line, without its newline. -/
def headerLine : List Char := "timestamp,port,protocol,client,data_len,data_hex,status".toList

/-- The text of the file: the header, then one line per entry, each ending in a newline. -/
def exportLog (log : List LogEntry) : List Char :=
  headerLine ++ '\n' :: (log.map fun e ↦ eventLine e ++ ['\n']).flatten

example : headerLine.splitOn ',' =
    ["timestamp", "port", "protocol", "client", "data_len", "data_hex", "status"].map
      String.toList := by decide

/-- A line splits back into its entry's fields exactly when no field holds a comma. -/
theorem eventLine_splitOn_iff (e : LogEntry) :
    (eventLine e).splitOn ',' = e.fields ↔ ∀ f ∈ e.fields, ',' ∉ f :=
  splitOn_intercalate_iff (List.cons_ne_nil _ _)

/-- Each comma inside a field adds one part to the split line. -/
theorem length_splitOn_eventLine (e : LogEntry) :
    ((eventLine e).splitOn ',').length = (e.fields.map (·.count ',')).sum + 7 := by
  rw [length_splitOn, eventLine, LogEntry.fields, count_intercalate]
  rfl

/-- Every line of every log the analyzer can build splits at its commas into at least eight
parts, never into the seven fields of its entry. -/
theorem eventLine_splits_client {log : List LogEntry} (hlog : Reachable log) {e : LogEntry}
    (he : e ∈ log) :
    (eventLine e).splitOn ',' ≠ e.fields ∧ 8 ≤ ((eventLine e).splitOn ',').length := by
  obtain ⟨a, ha⟩ := hlog.client e he
  have hclient : e.client ∈ e.fields := by simp [LogEntry.fields]
  have hcomma : ',' ∈ e.client := ha ▸ comma_mem_addr_str a
  refine ⟨fun h ↦ (eventLine_splitOn_iff e).mp h _ hclient hcomma, ?_⟩
  have hpos : 0 < e.client.count ',' := List.count_pos_iff.mpr hcomma
  have hle : e.client.count ',' ≤ (e.fields.map (·.count ',')).sum :=
    List.single_le_sum (fun _ _ ↦ Nat.zero_le _) _ (List.mem_map_of_mem _ hclient)
  rw [length_splitOn_eventLine]
  omega

/-- The first entry `handle_tcp` logs for a client at 10.0.0.2:40000 that sent `hi` to the
DNS listener. -/
theorem handleTcp_line_splits :
    let log := handleTcp [] "2026-01-01T00:00:00".toList "2026-01-01T00:00:01".toList
      ⟨"10.0.0.2".toList, 40000⟩ 53 "DNS".toList (.ok [[0x68, 0x69]]) (.ok ())
    let e : LogEntry := ⟨"2026-01-01T00:00:00".toList, 53, "TCP-DNS".toList,
      "('10.0.0.2', 40000)".toList, 2, "6869".toList, "RECEIVED".toList⟩
    Reachable log ∧ e ∈ log ∧
      ((eventLine e).splitOn ',' ≠ e.fields ∧ 8 ≤ ((eventLine e).splitOn ',').length) :=
  have hlog := handleTcp_reachable .nil "2026-01-01T00:00:00".toList "2026-01-01T00:00:01".toList
    ⟨"10.0.0.2".toList, 40000⟩ 53 "DNS".toList (.ok [[0x68, 0x69]]) (.ok ())
  have he : (⟨"2026-01-01T00:00:00".toList, 53, "TCP-DNS".toList, "('10.0.0.2', 40000)".toList,
      2, "6869".toList, "RECEIVED".toList⟩ : LogEntry) ∈
      handleTcp [] "2026-01-01T00:00:00".toList "2026-01-01T00:00:01".toList
        ⟨"10.0.0.2".toList, 40000⟩ 53 "DNS".toList (.ok [[0x68, 0x69]]) (.ok ()) := by decide
  ⟨hlog, he, eventLine_splits_client hlog he⟩

/-! ### The lines of the file -/

theorem intercalate_append_nil (sep : Char) (h : List Char) (lines : List (List Char)) :
    [sep].intercalate (h :: lines ++ [[]]) = h ++ sep :: (lines.map (· ++ [sep])).flatten := by
  induction lines generalizing h with
  | nil => simp [List.intercalate]
  | cons l lines ih =>
      rw [List.cons_append, List.cons_append, intercalate_cons_cons, ← List.cons_append, ih]
      simp

/-- With no newline in any field, splitting the file at newlines gives the header, then one
line per entry in log order, then the empty text after the last newline. -/
theorem exportLog_lines {log : List LogEntry} (h : ∀ e ∈ log, ∀ f ∈ e.fields, '\n' ∉ f) :
    (exportLog log).splitOn '\n' = headerLine :: log.map eventLine ++ [[]] := by
  have hline : ∀ e ∈ log, '\n' ∉ eventLine e := fun e he ↦ by
    have hf := h e he
    simp only [LogEntry.fields, List.mem_cons, List.mem_singleton, forall_eq_or_imp,
      forall_eq, List.not_mem_nil, or_false, false_implies, implies_true, and_true] at hf
    simp [eventLine, LogEntry.fields, List.intercalate, hf]
  have hmap : log.map (fun e ↦ eventLine e ++ ['\n']) = (log.map eventLine).map (· ++ ['\n']) := by
    simp
  rw [exportLog, hmap, ← intercalate_append_nil]
  refine List.splitOn_intercalate _ _ ?_ (List.cons_ne_nil _ _)
  simp only [List.mem_cons, List.mem_append, List.mem_map, List.mem_singleton,
    List.not_mem_nil, or_false]
  rintro l ((rfl | ⟨e, he, rfl⟩) | rfl)
  · decide
  · exact hline e he
  · simp

/-- The two entries `handle_tcp` logs for a client that sent `hi` and got its echo back. -/
theorem exportLog_lines_echo :
    let log : List LogEntry :=
      [⟨"2026-01-01T00:00:00".toList, 53, "TCP-DNS".toList, "('10.0.0.2', 40000)".toList, 2,
          "6869".toList, "RECEIVED".toList⟩,
        ⟨"2026-01-01T00:00:01".toList, 53, "TCP-DNS".toList, "('10.0.0.2', 40000)".toList, 11,
          [], "SENT_ECHO".toList⟩]
    (∀ e ∈ log, ∀ f ∈ e.fields, '\n' ∉ f) ∧
      (exportLog log).splitOn '\n' = headerLine :: log.map eventLine ++ [[]] := by
  intro log
  have h : ∀ e ∈ log, ∀ f ∈ e.fields, '\n' ∉ f := by decide
  exact ⟨h, exportLog_lines h⟩

end ProtocolProbe.Analyzer
