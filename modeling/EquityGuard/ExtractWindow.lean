import EquityGuard.Timeline

/-!
Cutting a window out of a capture. The bytes are split into lines with their terminators;
the lines whose time lies in the window are copied as they are, and those that can be
placed at no time are counted.
-/
namespace EquityGuard.ExtractWindow
open EquityGuard.Capture EquityGuard.Client EquityGuard.JsonText EquityGuard.JsValue EquityGuard.Timeline

/-! ### Lines -/

/-- `bytes.subarray(start, stop)`. -/
def subarray (bytes : List UInt8) (start stop : Nat) : List UInt8 := (bytes.take stop).drop start
/-- The lines found, and where the next one starts. -/
structure Splitting where
  lines : List (List UInt8)
  start : Nat
def Splitting.step (bytes : List UInt8) (splitting : Splitting) (i : Nat) : Splitting :=
  if bytes[i]? = some 10 then ⟨splitting.lines ++ [subarray bytes splitting.start (i + 1)], i + 1⟩ else splitting
/-- Splits into lines keeping each line's exact bytes, including its terminator. -/
def splitLinesExact (bytes : List UInt8) : List (List UInt8) :=
  let splitting := (List.range bytes.length).foldl (Splitting.step bytes) ⟨[], 0⟩
  if splitting.start < bytes.length then splitting.lines ++ [bytes.drop splitting.start] else splitting.lines
/-- `new TextDecoder("utf-8", { fatal: true }).decode`, with no value for what it throws on; a byte order mark in front
    is dropped. -/
def decode (bytes : List UInt8) : Option Text :=
  (String.fromUTF8? ⟨bytes.toArray⟩).map (fun string =>
    match text string with
    | 0xfeff :: rest => rest
    | units => units)

/-! ### Records -/

def symbolsOf (record : Value) : List Text :=
  match record.get "accounts" with
  | .array accounts => accounts.filterMap (fun account => if account.isObject then stringOrNull (account.get "symbol") else none)
  | _ => (stringOrNull (record.get "symbol")).toList
/-- A slot as it stands in a record. -/
def slotOf (record : Value) : Value :=
  match record.get "slot" with
  | .number number => .number number
  | .negativeZero => .negativeZero
  | .string slot => .string slot
  | _ => .null
def wallclockOf (record : Value) : Option Text :=
  (stringOrNull (record.get "wallclock")).or (stringOrNull (record.get "capturedAt"))

structure WindowGap where
  fromWallclock : Text
  toWallclock : Text
  wallclockGapMs : Int
  fromSlot : Value
  toSlot : Value
/-- The interval and the symbols that are asked for. -/
structure Query where
  startMs : Int
  endMs : Int
  symbols : Option (List Text)
def Query.InWindow (query : Query) (ms : Int) : Prop := query.startMs ≤ ms ∧ ms < query.endMs
instance (query : Query) : DecidablePred query.InWindow := fun _ => inferInstanceAs (Decidable (_ ∧ _))
/-- The record contains one of the symbols, if there are any. -/
def Query.Wants (query : Query) (record : Value) : Prop :=
  ∀ symbols ∈ query.symbols, ∃ symbol ∈ symbolsOf record, symbol ∈ symbols
instance (query : Query) : DecidablePred query.Wants := fun record =>
  match h : query.symbols with
  | none => isTrue (by simp [Query.Wants, h])
  | some symbols => decidable_of_iff (∃ symbol ∈ symbolsOf record, symbol ∈ symbols) (by simp [Query.Wants, h])
/-- The variables of the loop. -/
structure Window where
  selected : List (List UInt8)
  gaps : List WindowGap
  unplaceableLines : Nat
  first : Option (Text × Value)
  last : Option (Text × Int × Value)

/-! ### The loop -/

/-- `out.set(line, offset)`. -/
def setAt (out : List UInt8) (offset : Nat) (line : List UInt8) : List UInt8 :=
  out.take offset ++ line ++ out.drop (offset + line.length)
/-- The selected lines, copied one behind the other. -/
def copied (selected : List (List UInt8)) : List UInt8 :=
  (selected.foldl (fun copy line => (setAt copy.1 copy.2 line, copy.2 + line.length))
    (List.replicate (selected.map List.length).sum 0, 0)).1

section
-- `JSON.parse`, with no value for what it throws on, and `Date.parse`, with none for `NaN`.
variable (jsonParse : Text → Option Value) (dateParse : Text → Option Int)

/-- What the first attempt makes of a line: an object, unless something is thrown. -/
def readRecord (line : List UInt8) : Option Value :=
  match (decode line).bind jsonParse with
  | some (.object fields) => some (.object fields)
  | _ => none
/-- Where a record stands in time. -/
def placeInTime (record : Value) : Option (Text × Int) := (wallclockOf record).bind (fun wallclock =>
  (dateParse wallclock).map (fun ms => (wallclock, ms)))
def Window.select (window : Window) (line : List UInt8) (record : Value) (wallclock : Text) (ms : Int) : Window :=
  let slot := slotOf record
  { window with
    gaps := match window.last with
      | some (lastWallclock, lastMs, lastSlot) =>
        if ms - lastMs ≥ CAPTURE_GAP_THRESHOLD_SECS * 1000 then
          window.gaps ++ [⟨lastWallclock, wallclock, ms - lastMs, lastSlot, slot⟩]
        else window.gaps
      | none => window.gaps
    first := window.first.or (some (wallclock, slot))
    last := some (wallclock, ms, slot)
    selected := window.selected ++ [line] }
def Window.step (query : Query) (window : Window) (line : List UInt8) : Js Window :=
  match readRecord jsonParse line with
  | none =>
    -- The line is decoded once more, now with nothing to catch what that throws.
    match decode line with
    | none => .error .TypeError
    | some string => .ok (if IsBlank string then window else { window with unplaceableLines := window.unplaceableLines + 1 })
  | some record =>
    match placeInTime dateParse record with
    | none => .ok { window with unplaceableLines := window.unplaceableLines + 1 }
    | some (wallclock, ms) =>
      if ms < query.startMs ∨ ms ≥ query.endMs then .ok window
      else if ¬ query.Wants record then .ok window
      else .ok (window.select line record wallclock ms)
/-- The loop over the lines, and the bytes that are written. -/
def runExtractWindow (query : Query) (bytes : List UInt8) : Js (Window × List UInt8) := do
  let window ← (splitLinesExact bytes).foldlM (Window.step jsonParse dateParse query) ⟨[], [], 0, none, none⟩
  return (window, copied window.selected)
end

/-! ### Splitting -/

/-- Lines that end where they say: each byte but the last is no terminator. -/
def Terminated (line : List UInt8) : Prop := ∃ body, 10 ∉ body ∧ line = body ++ [10]
/-- After some bytes, the lines are what stands before the start of the next one, which has no terminator yet. -/
structure Splits (bytes : List UInt8) (count : Nat) (splitting : Splitting) : Prop where
  start : splitting.start ≤ count
  whole : splitting.lines.flatten = bytes.take splitting.start
  lines : ∀ line ∈ splitting.lines, Terminated line
  rest : 10 ∉ subarray bytes splitting.start count

section
variable {bytes : List UInt8}

theorem subarray_succ {start i : Nat} {byte : UInt8} (inside : start ≤ i) (found : bytes[i]? = some byte) :
    subarray bytes start (i + 1) = subarray bytes start i ++ [byte] := by
  obtain ⟨bound, rfl⟩ := List.getElem?_eq_some_iff.mp found
  unfold subarray
  rw [List.take_add_one, List.getElem?_eq_getElem bound, Option.toList_some, List.drop_append_of_le_length]
  rw [List.length_take]
  omega
theorem take_subarray {start stop : Nat} (inside : start ≤ stop) :
    bytes.take start ++ subarray bytes start stop = bytes.take stop := by
  have first : bytes.take start = (bytes.take stop).take start := by rw [List.take_take, Nat.min_eq_left inside]
  rw [first]
  exact List.take_append_drop start _
theorem splits_step {count : Nat} {splitting : Splitting} (splits : Splits bytes count splitting)
    (inside : count < bytes.length) :
    Splits bytes (count + 1) (splitting.step bytes count) := by
  obtain ⟨byte, found⟩ : ∃ byte, bytes[count]? = some byte := ⟨_, List.getElem?_eq_getElem inside⟩
  have longer := subarray_succ splits.start found
  unfold Splitting.step
  by_cases terminator : bytes[count]? = some 10
  · obtain rfl : byte = 10 := Option.some.inj (found.symm.trans terminator)
    rw [if_pos terminator]
    refine ⟨le_refl _, ?_, ?_, ?_⟩
    · rw [List.flatten_append, splits.whole, List.flatten_singleton]
      exact take_subarray (Nat.le_succ_of_le splits.start)
    · intro line member
      rcases List.mem_append.mp member with before | latest
      · exact splits.lines line before
      · rw [List.mem_singleton.mp latest]
        exact ⟨_, splits.rest, longer⟩
    · simp [subarray]
  · rw [if_neg terminator]
    refine ⟨Nat.le_succ_of_le splits.start, splits.whole, splits.lines, ?_⟩
    rw [longer, List.mem_append, not_or]
    refine ⟨splits.rest, fun last => terminator ?_⟩
    rw [found, List.mem_singleton.mp last]
theorem splits_range {count : Nat} (inside : count ≤ bytes.length) :
    Splits bytes count ((List.range count).foldl (Splitting.step bytes) ⟨[], 0⟩) := by
  induction count with
  | zero => exact ⟨le_refl 0, by simp, by simp, by simp [subarray]⟩
  | succ count ih =>
    rw [List.range_succ, List.foldl_append]
    exact splits_step (ih (by omega)) (by omega)
/-- The lines of the bytes, put together, are the bytes. -/
theorem splitLinesExact_flatten : (splitLinesExact bytes).flatten = bytes := by
  have splits := splits_range (le_refl bytes.length)
  unfold splitLinesExact
  dsimp only
  split
  · rw [List.flatten_append, splits.whole, List.flatten_singleton]
    exact List.take_append_drop _ _
  · rename_i atEnd
    rw [splits.whole]
    exact List.take_of_length_le (by omega)
/-- Each line ends with its only terminator, but for a last one without any. -/
theorem line_shape : ∀ line ∈ splitLinesExact bytes, Terminated line ∨ (line ≠ [] ∧ 10 ∉ line) := by
  have splits := splits_range (le_refl bytes.length)
  unfold splitLinesExact
  dsimp only
  intro line member
  split at member
  · rename_i more
    rcases List.mem_append.mp member with terminated | last
    · exact .inl (splits.lines line terminated)
    · rw [List.mem_singleton.mp last]
      have unterminated := splits.rest
      unfold subarray at unterminated
      rw [List.take_length] at unterminated
      refine .inr ⟨fun none => ?_, unterminated⟩
      rw [List.drop_eq_nil_iff] at none
      omega
  · exact .inl (splits.lines line member)
end

/-! ### Copying -/

theorem setAt_zeros (copied line : List UInt8) (more : Nat) :
    setAt (copied ++ List.replicate (line.length + more) 0) copied.length line = copied ++ line ++ List.replicate more 0 := by
  unfold setAt
  rw [List.take_left, ← List.drop_drop, List.drop_left, List.drop_replicate, Nat.add_sub_cancel_left]
theorem copy_loop (copied : List UInt8) (lines : List (List UInt8)) :
    (lines.foldl (fun copy line => (setAt copy.1 copy.2 line, copy.2 + line.length))
      (copied ++ List.replicate (lines.map List.length).sum 0, copied.length)).1 = copied ++ lines.flatten := by
  induction lines generalizing copied with
  | nil => simp
  | cons line rest ih =>
    rw [List.foldl_cons, List.map_cons, List.sum_cons, setAt_zeros, ← List.length_append, ih]
    simp
theorem copied_eq (selected : List (List UInt8)) : copied selected = selected.flatten := copy_loop [] selected

/-! ### What becomes of a line -/

inductive Place where
  | selected
  | outOfInterval
  | filtered
  | blank
  | unplaceable
deriving DecidableEq

section
variable (jsonParse : Text → Option Value) (dateParse : Text → Option Int) (query : Query)

/-- Where a line belongs. What is no object, and no blank line, can be placed nowhere, like an object without a time. -/
inductive Placed (line : List UInt8) : Place → Prop where
  | selected {record : Value} {wallclock : Text} {ms : Int} (read : readRecord jsonParse line = some record)
      (timed : placeInTime dateParse record = some (wallclock, ms)) (inside : query.InWindow ms) (wanted : query.Wants record) :
      Placed line .selected
  | outOfInterval {record : Value} {wallclock : Text} {ms : Int} (read : readRecord jsonParse line = some record)
      (timed : placeInTime dateParse record = some (wallclock, ms)) (outside : ¬ query.InWindow ms) : Placed line .outOfInterval
  | filtered {record : Value} {wallclock : Text} {ms : Int} (read : readRecord jsonParse line = some record)
      (timed : placeInTime dateParse record = some (wallclock, ms)) (inside : query.InWindow ms)
      (unwanted : ¬ query.Wants record) : Placed line .filtered
  | untimed {record : Value} (read : readRecord jsonParse line = some record) (timeless : placeInTime dateParse record = none) :
      Placed line .unplaceable
  | blank {string : Text} (unread : readRecord jsonParse line = none) (decoded : decode line = some string)
      (empty : IsBlank string) : Placed line .blank
  | malformed (unread : readRecord jsonParse line = none) (solid : ∀ string ∈ decode line, ¬ IsBlank string) :
      Placed line .unplaceable
def placeOf (line : List UInt8) : Place :=
  match readRecord jsonParse line with
  | none => if ∃ string ∈ decode line, IsBlank string then .blank else .unplaceable
  | some record =>
    match placeInTime dateParse record with
    | none => .unplaceable
    | some (_, ms) => if ¬ query.InWindow ms then .outOfInterval else if query.Wants record then .selected else .filtered

theorem placed_placeOf (line : List UInt8) : Placed jsonParse dateParse query line (placeOf jsonParse dateParse query line) := by
  unfold placeOf
  cases read : readRecord jsonParse line with
  | none =>
    dsimp only
    split
    · rename_i blank
      obtain ⟨string, decoded, empty⟩ := blank
      exact .blank read decoded empty
    · rename_i solid
      exact .malformed read fun string decoded empty => solid ⟨string, decoded, empty⟩
  | some record =>
    dsimp only
    cases timed : placeInTime dateParse record with
    | none => exact .untimed read timed
    | some point =>
      obtain ⟨wallclock, ms⟩ := point
      dsimp only
      by_cases inside : query.InWindow ms
      · rw [if_neg (not_not.mpr inside)]
        by_cases wanted : query.Wants record
        · rw [if_pos wanted]
          exact .selected read timed inside wanted
        · rw [if_neg wanted]
          exact .filtered read timed inside wanted
      · rw [if_pos inside]
        exact .outOfInterval read timed inside
variable {jsonParse dateParse query}
/-- A line belongs to one place. -/
theorem placed_unique {line : List UInt8} {one other : Place} (placed : Placed jsonParse dateParse query line one)
    (also : Placed jsonParse dateParse query line other) : one = other := by
  cases placed <;> cases also <;> simp_all
theorem placed_iff {line : List UInt8} {place : Place} :
    Placed jsonParse dateParse query line place ↔ placeOf jsonParse dateParse query line = place := by
  constructor
  · exact fun placed => placed_unique (placed_placeOf jsonParse dateParse query line) placed
  · rintro rfl
    exact placed_placeOf jsonParse dateParse query line
instance (place : Place) : DecidablePred (fun line => Placed jsonParse dateParse query line place) := fun _ =>
  decidable_of_iff _ placed_iff.symm

/-! ### The whole loop -/

/-- The loop stops at a line that is no UTF-8. -/
theorem step_undecodable {window : Window} {line : List UInt8} (undecodable : decode line = none) :
    window.step jsonParse dateParse query line = .error .TypeError := by
  have unread : readRecord jsonParse line = none := by
    unfold readRecord
    rw [undecodable]
    rfl
  unfold Window.step
  rw [unread, undecodable]
/-- Every other line is selected, counted, or passed over, as its place says. -/
theorem step_decoded {window : Window} {line : List UInt8} {string : Text} (decoded : decode line = some string) :
    ∃ next, window.step jsonParse dateParse query line = .ok next ∧
      next.selected = window.selected ++ (if Placed jsonParse dateParse query line .selected then [line] else []) ∧
      next.unplaceableLines = window.unplaceableLines + if Placed jsonParse dateParse query line .unplaceable then 1 else 0 := by
  have elsewhere {one other : Place} (placed : Placed jsonParse dateParse query line one) (different : one ≠ other) :
      ¬ Placed jsonParse dateParse query line other := fun also => different (placed_unique placed also)
  unfold Window.step
  cases read : readRecord jsonParse line with
  | none =>
    rw [decoded]
    by_cases empty : IsBlank string
    · have blank : Placed jsonParse dateParse query line .blank := .blank read decoded empty
      exact ⟨window, by simp [empty], by simp [elsewhere blank], by simp [elsewhere blank]⟩
    · have malformed : Placed jsonParse dateParse query line .unplaceable := .malformed read (by simpa [decoded] using empty)
      exact ⟨{ window with unplaceableLines := window.unplaceableLines + 1 }, by simp [empty], by simp [elsewhere malformed],
        by simp [malformed]⟩
  | some record =>
    dsimp only
    cases timed : placeInTime dateParse record with
    | none =>
      have untimed : Placed jsonParse dateParse query line .unplaceable := .untimed read timed
      exact ⟨_, rfl, by simp [elsewhere untimed], by simp [untimed]⟩
    | some point =>
      obtain ⟨wallclock, ms⟩ := point
      have bounds : (ms < query.startMs ∨ ms ≥ query.endMs) ↔ ¬ query.InWindow ms := by
        unfold Query.InWindow
        omega
      by_cases inside : query.InWindow ms
      · by_cases wanted : query.Wants record
        · have selected : Placed jsonParse dateParse query line .selected := .selected read timed inside wanted
          exact ⟨window.select line record wallclock ms, by simp [bounds, inside, wanted], by simp [selected, Window.select],
            by simp [elsewhere selected, Window.select]⟩
        · have filtered : Placed jsonParse dateParse query line .filtered := .filtered read timed inside wanted
          exact ⟨window, by simp [bounds, inside, wanted], by simp [elsewhere filtered], by simp [elsewhere filtered]⟩
      · have outside : Placed jsonParse dateParse query line .outOfInterval := .outOfInterval read timed inside
        exact ⟨window, by simp [bounds, inside], by simp [elsewhere outside], by simp [elsewhere outside]⟩
theorem loop_decoded {lines : List (List UInt8)} (decodable : ∀ line ∈ lines, (decode line).isSome) (window : Window) :
    ∃ final, lines.foldlM (Window.step jsonParse dateParse query) window = .ok final ∧
      final.selected = window.selected ++ lines.filter (fun line => Placed jsonParse dateParse query line .selected) ∧
      final.unplaceableLines = window.unplaceableLines +
        lines.countP (fun line => Placed jsonParse dateParse query line .unplaceable) := by
  induction lines generalizing window with
  | nil => exact ⟨window, rfl, by simp, by simp⟩
  | cons line rest ih =>
    obtain ⟨first, others⟩ := List.forall_mem_cons.mp decodable
    obtain ⟨string, decoded⟩ := Option.isSome_iff_exists.mp first
    obtain ⟨next, stepped, selected, counted⟩ := @step_decoded jsonParse dateParse query window line string decoded
    obtain ⟨final, looped, allSelected, allCounted⟩ := ih others next
    refine ⟨final, ?_, ?_, ?_⟩
    · rw [List.foldlM_cons, stepped]
      exact looped
    · rw [allSelected, selected, List.append_assoc, List.filter_cons]
      split <;> simp_all
    · rw [allCounted, counted, List.countP_cons]
      by_cases unplaceable : Placed jsonParse dateParse query line .unplaceable
      · simp only [unplaceable, if_true, decide_true]
        omega
      · simp [unplaceable]
theorem decodable_of_loop {lines : List (List UInt8)} {window final : Window}
    (looped : lines.foldlM (Window.step jsonParse dateParse query) window = .ok final) :
    ∀ line ∈ lines, (decode line).isSome := by
  induction lines generalizing window with
  | nil => simp
  | cons line rest ih =>
    rw [List.foldlM_cons] at looped
    cases decoded : decode line with
    | none =>
      rw [step_undecodable decoded] at looped
      cases looped
    | some string =>
      obtain ⟨next, stepped, _⟩ := @step_decoded jsonParse dateParse query window line string decoded
      rw [stepped] at looped
      exact List.forall_mem_cons.mpr ⟨by simp [decoded], ih looped⟩
/-- What cutting a window is to do: the lines make up the bytes, each belongs to one place, and the bytes of the
    selected lines are what is written, whatever the others are. -/
structure Extracts (jsonParse : Text → Option Value) (dateParse : Text → Option Int) (query : Query) (bytes : List UInt8)
    (result : Js (Window × List UInt8)) : Prop where
  partitioned : (splitLinesExact bytes).flatten = bytes
  lines : ∀ line ∈ splitLinesExact bytes, Terminated line ∨ (line ≠ [] ∧ 10 ∉ line)
  placed : ∀ line ∈ splitLinesExact bytes, ∃! place, Placed jsonParse dateParse query line place
  completes : ∃ window out, result = .ok (window, out) ∧
    out = ((splitLinesExact bytes).filter (fun line => Placed jsonParse dateParse query line .selected)).flatten ∧
    window.unplaceableLines = (splitLinesExact bytes).countP (fun line => Placed jsonParse dateParse query line .unplaceable)
/-- A window is cut out exactly where every line is UTF-8. -/
theorem extracts_iff (bytes : List UInt8) : Extracts jsonParse dateParse query bytes
    (runExtractWindow jsonParse dateParse query bytes) ↔ ∀ line ∈ splitLinesExact bytes, (decode line).isSome := by
  constructor
  · intro extracts
    obtain ⟨window, out, ran, _⟩ := extracts.completes
    unfold runExtractWindow at ran
    cases looped : (splitLinesExact bytes).foldlM (Window.step jsonParse dateParse query) ⟨[], [], 0, none, none⟩ with
    | error thrown =>
      rw [looped] at ran
      cases ran
    | ok final => exact decodable_of_loop looped
  · intro decodable
    refine ⟨splitLinesExact_flatten, line_shape, ?_, ?_⟩
    · intro line _
      exact ⟨_, placed_placeOf jsonParse dateParse query line, fun _ also => placed_unique also (placed_placeOf _ _ _ line)⟩
    · obtain ⟨final, looped, selected, counted⟩ :=
        @loop_decoded jsonParse dateParse query _ decodable ⟨[], [], 0, none, none⟩
      refine ⟨final, copied final.selected, ?_, ?_, ?_⟩
      · unfold runExtractWindow
        rw [looped]
        rfl
      · rw [copied_eq, selected, List.nil_append]
      · rw [counted, Nat.zero_add]
end

/-- A line with a byte that no UTF-8 has. -/
theorem stray_byte_aborts : runExtractWindow (fun _ => none) (fun _ => none) ⟨0, 1, none⟩ [255, 10] = .error .TypeError ∧
    ¬ Extracts (fun _ => none) (fun _ => none) ⟨0, 1, none⟩ [255, 10]
      (runExtractWindow (fun _ => none) (fun _ => none) ⟨0, 1, none⟩ [255, 10]) := by
  have lines : splitLinesExact [255, 10] = [[255, 10]] := by decide
  have undecodable : decode [255, 10] = none := by
    have invalid : String.fromUTF8? ⟨#[255, 10]⟩ = none := by decide
    unfold decode
    rw [invalid]
    rfl
  have aborts : runExtractWindow (fun _ => none) (fun _ => none) ⟨0, 1, none⟩ [255, 10] = .error .TypeError := by
    unfold runExtractWindow
    rw [lines, List.foldlM_cons, step_undecodable undecodable]
    rfl
  refine ⟨aborts, fun extracts => ?_⟩
  obtain ⟨window, out, ran, _⟩ := extracts.completes
  rw [aborts] at ran
  cases ran

end EquityGuard.ExtractWindow
