import Listfile.Script.Sink

set_option autoImplicit false

/-! What arrives in a sink with a limit: the beginning of what arrives in a sink without one, whatever calls are made
and wherever the limit falls. A call fails exactly when some of its bytes are lost, and writes nothing behind the
first line that does not fit. -/

namespace Listfile.Script

def lineBytes (line : String) : List UInt8 := textBytes (line ++ "\n")

theorem lineBytes_ne_nil (line : String) : lineBytes line ≠ [] := by
  have feed : lineBytes line = line.toList.flatMap String.utf8EncodeChar ++ [10] := by
    rw [lineBytes, textBytes, String.toList_append, List.flatMap_append]
    rfl
  rw [feed]
  exact List.append_ne_nil_of_right_ne_nil _ (List.cons_ne_nil _ _)

theorem textBytes_text (lines : List String) : textBytes (text lines) = lines.flatMap lineBytes := by
  rw [textBytes, text, String.toList_join, List.flatMap_map, List.flatMap_assoc]
  rfl

def Call.bytes (call : Call) : List UInt8 := textBytes (text call.lines)

theorem Call.bytes_project (project : Project) : (Call.project project).bytes = textBytes project.script := by
  rw [bytes, Project.script, lines]

def callBytes (calls : List Call) : List UInt8 := calls.flatMap Call.bytes

/-- The part of some bytes for which there is room. -/
def keptWithin (limit : Option Nat) (bytes : List UInt8) : List UInt8 :=
  match limit with
  | none => bytes
  | some limit => bytes.take limit

def FitsWithin (limit : Option Nat) (bytes : List UInt8) : Prop := ∀ bound ∈ limit, bytes.length ≤ bound

theorem fitsWithin_none (bytes : List UInt8) : FitsWithin none bytes := by
  rw [FitsWithin]
  exact nofun

instance (limit : Option Nat) (bytes : List UInt8) : Decidable (FitsWithin limit bytes) :=
  match limit with
  | none => isTrue (fitsWithin_none bytes)
  | some bound => decidable_of_iff (bytes.length ≤ bound) (by simp [FitsWithin])

theorem fitsWithin_of_eq_nil_or {limit : Option Nat} {bytes : List UInt8}
    (silentOrFits : bytes = [] ∨ FitsWithin limit bytes) : FitsWithin limit bytes := by
  rcases silentOrFits with silent | fits
  · rw [silent]
    intro bound _isLimit
    exact Nat.zero_le bound
  · exact fits

theorem FitsWithin.of_append {limit : Option Nat} {first second : List UInt8}
    (fits : FitsWithin limit (first ++ second)) : FitsWithin limit first := by
  intro bound isLimit
  have whole := fits bound isLimit
  rw [List.length_append] at whole
  exact Nat.le_of_add_right_le whole

theorem keptWithin_append_of_not_fits {limit : Option Nat} {first : List UInt8} (full : ¬FitsWithin limit first)
    (second : List UInt8) : keptWithin limit (first ++ second) = keptWithin limit first := by
  cases limit with
  | none => exact absurd (fitsWithin_none first) full
  | some bound =>
      have beyond : bound ≤ first.length := by
        simp only [FitsWithin, Option.mem_def, Option.some.injEq, forall_eq', Nat.not_le] at full
        exact Nat.le_of_lt full
      exact List.take_append_of_le_length beyond

namespace Sink

/-- A sink that these bytes were offered to. -/
def offered (limit : Option Nat) (bytes : List UInt8) : Sink := ⟨limit, keptWithin limit bytes⟩

theorem offered_nil (limit : Option Nat) : offered limit [] = empty limit := by
  cases limit <;> simp [offered, empty, keptWithin]

theorem accepted_offered (limit : Option Nat) (before bytes : List UInt8) :
    keptWithin limit before ++ (offered limit before).accepted bytes = keptWithin limit (before ++ bytes) := by
  cases limit with
  | none => rfl
  | some bound =>
      have room : bound - (before.take bound).length = bound - before.length := by
        rw [List.length_take]
        omega
      simp only [keptWithin, accepted, offered, room, List.take_append]

theorem put_offered (limit : Option Nat) (before bytes : List UInt8) :
    (offered limit before).put bytes = offered limit (before ++ bytes) := by
  rw [put, offered, offered, ← accepted_offered]
  rfl

theorem fits_offered_iff (limit : Option Nat) (before : List UInt8) {bytes : List UInt8} (filled : bytes ≠ []) :
    (offered limit before).fits bytes = true ↔ FitsWithin limit (before ++ bytes) := by
  have some_byte := List.length_pos_iff.2 filled
  cases limit with
  | none => simp [fits, accepted, offered, FitsWithin]
  | some bound =>
      simp only [fits, accepted, offered, keptWithin, List.length_take, beq_iff_eq, FitsWithin, Option.mem_def,
        Option.some.injEq, forall_eq', List.length_append]
      omega

/-- Lines leave what was offered before them in front of their own bytes, and fail if one of those is lost. -/
theorem writeLines_offered (limit : Option Nat) (before : List UInt8) (lines : List String) :
    (offered limit before).writeLines lines = (offered limit (before ++ lines.flatMap lineBytes),
      if lines = [] ∨ FitsWithin limit (before ++ lines.flatMap lineBytes) then .ok () else .error .full) := by
  induction lines generalizing before with
  | nil => simp [writeLines]
  | cons line lines ih =>
      have fits_iff := fits_offered_iff limit before (lineBytes_ne_nil line)
      rw [writeLines, List.flatMap_cons, ← List.append_assoc]
      change (if (offered limit before).fits (lineBytes line) = true then
        ((offered limit before).put (lineBytes line)).writeLines lines
        else ((offered limit before).put (lineBytes line), .error .full)) = _
      rw [put_offered]
      split
      · rename_i fits
        rw [ih]
        cases lines with
        | nil => simp [fits_iff.1 fits]
        | cons next lines => simp
      · rename_i lost
        have full : ¬FitsWithin limit (before ++ lineBytes line) := fun fits => lost (fits_iff.2 fits)
        rw [offered, offered, keptWithin_append_of_not_fits full,
          if_neg (not_or.2 ⟨List.cons_ne_nil _ _, fun fits => full fits.of_append⟩)]

theorem writeLines_append (sink : Sink) (first second : List String) :
    sink.writeLines (first ++ second) =
      match sink.writeLines first with
      | (after, .ok ()) => after.writeLines second
      | (after, .error fault) => (after, .error fault) := by
  induction first generalizing sink with
  | nil => rfl
  | cons line first ih =>
      rw [List.cons_append, writeLines, writeLines]
      split
      · exact ih _
      · rfl

/-- Behind a line that does not fit, nothing is written. -/
theorem writeLines_error {sink : Sink} {lines : List String} {fault : SinkFault}
    (failed : (sink.writeLines lines).2 = .error fault) :
    ∃ before line after, lines = before ++ line :: after ∧ (sink.writeLines before).2 = .ok () ∧
      (sink.writeLines before).1.fits (lineBytes line) = false ∧
      (sink.writeLines lines).1 = (sink.writeLines before).1.put (lineBytes line) := by
  induction lines generalizing sink with
  | nil => cases failed
  | cons line lines ih =>
      by_cases fits : sink.fits (lineBytes line) = true
      · have step : ∀ others, sink.writeLines (line :: others) = (sink.put (lineBytes line)).writeLines others :=
          fun _others => if_pos fits
        rw [step] at failed ⊢
        obtain ⟨before, lost, after, same, written, noRoom, last⟩ := ih failed
        rw [same] at last ⊢
        exact ⟨line :: before, lost, after, rfl, by rw [step]; exact written, by rw [step]; exact noRoom,
          by rw [step]; exact last⟩
      · have stop : sink.writeLines (line :: lines) = (sink.put (lineBytes line), .error .full) := if_neg fits
        rw [stop]
        exact ⟨[], line, lines, rfl, rfl, Bool.eq_false_iff.2 fits, rfl⟩

theorem accepted_eq_of_fits {sink : Sink} {bytes : List UInt8} (fits : sink.fits bytes = true) :
    sink.accepted bytes = bytes := by
  rw [Sink.fits, beq_iff_eq] at fits
  rw [accepted] at fits ⊢
  split
  · rfl
  · rename_i bound isLimit
    simp only [isLimit, List.length_take] at fits
    exact List.take_of_length_le (by omega)

theorem length_accepted_lt {sink : Sink} {bytes : List UInt8} (lost : sink.fits bytes = false) :
    (sink.accepted bytes).length < bytes.length := by
  rw [Sink.fits, beq_eq_false_iff_ne] at lost
  rw [accepted] at lost ⊢
  split
  · rename_i isLimit
    simp only [isLimit] at lost
    exact absurd rfl lost
  · rename_i bound isLimit
    simp only [isLimit, List.length_take] at lost ⊢
    omega

theorem received_of_ok {sink : Sink} {lines : List String} (written : (sink.writeLines lines).2 = .ok ()) :
    (sink.writeLines lines).1.received = sink.received ++ lines.flatMap lineBytes := by
  induction lines generalizing sink with
  | nil => exact (List.append_nil _).symm
  | cons line lines ih =>
      by_cases fits : sink.fits (lineBytes line) = true
      · have step : sink.writeLines (line :: lines) = (sink.put (lineBytes line)).writeLines lines := if_pos fits
        rw [step] at written ⊢
        rw [ih written, put, accepted_eq_of_fits fits, List.append_assoc, List.flatMap_cons]
      · have stop : sink.writeLines (line :: lines) = (sink.put (lineBytes line), .error .full) := if_neg fits
        rw [stop] at written
        cases written

theorem writeLines_ok_iff (sink : Sink) (lines : List String) :
    (sink.writeLines lines).2 = .ok () ↔
      (sink.writeLines lines).1.received = sink.received ++ lines.flatMap lineBytes := by
  refine ⟨received_of_ok, fun whole => ?_⟩
  cases outcome : (sink.writeLines lines).2 with
  | ok done => rfl
  | error fault =>
      obtain ⟨before, line, after, same, written, lost, last⟩ := writeLines_error outcome
      have missing := length_accepted_lt lost
      rw [last, put, received_of_ok written, same] at whole
      have lengths := congrArg List.length whole
      simp only [List.flatMap_append, List.flatMap_cons, List.length_append] at lengths
      omega

theorem writeParts_eq (sink : Sink) (parts : List Part) :
    ((sink.writeParts parts).1, (sink.writeParts parts).2.1) = sink.writeLines (parts.flatMap Part.lines) := by
  induction parts generalizing sink with
  | nil => rfl
  | cons part parts ih =>
      rw [List.flatMap_cons, writeLines_append, writeParts]
      cases sink.writeLines part.lines with
      | mk after outcome =>
          cases outcome with
          | ok done => exact ih after
          | error fault => rfl

/-- Some parts were begun, all but the last of them arrived, and the others left no trace. -/
structure Begun (sink : Sink) (parts begun rest : List Part) : Prop where
  inOrder : parts = begun ++ rest
  log : (sink.writeParts parts).2.2 = begun.flatMap Part.announcement
  written : sink.writeLines (parts.flatMap Part.lines) = sink.writeLines (begun.flatMap Part.lines)
  arrived : (sink.writeLines (begun.dropLast.flatMap Part.lines)).2 = .ok ()
  stopped : rest ≠ [] → (sink.writeLines (begun.flatMap Part.lines)).2 = .error .full

theorem exists_begun (sink : Sink) (parts : List Part) : ∃ begun rest, Begun sink parts begun rest := by
  induction parts generalizing sink with
  | nil => exact ⟨[], [], rfl, rfl, rfl, rfl, fun some => absurd rfl some⟩
  | cons part parts ih =>
      cases outcome : sink.writeLines part.lines with
      | mk after result =>
          have continued : ∀ lines, sink.writeLines (part.lines ++ lines) =
              match (after, result) with
              | (after, .ok ()) => after.writeLines lines
              | (after, .error fault) => (after, .error fault) := by
            intro lines
            rw [writeLines_append, outcome]
          cases result with
          | ok done =>
              obtain ⟨begun, rest, all⟩ := ih after
              refine ⟨part :: begun, rest, by rw [all.inOrder]; rfl, ?_, ?_, ?_, ?_⟩
              · rw [writeParts, outcome]
                exact congrArg (part.announcement ++ ·) all.log
              · rw [List.flatMap_cons, List.flatMap_cons, continued, continued]
                exact all.written
              · cases begun with
                | nil => rfl
                | cons next begun =>
                    rw [List.dropLast_cons_cons, List.flatMap_cons, continued]
                    exact all.arrived
              · rw [List.flatMap_cons, continued]
                exact all.stopped
          | error fault =>
              refine ⟨[part], parts, rfl, ?_, ?_, rfl, fun _some => ?_⟩
              · rw [writeParts, outcome, List.flatMap_singleton]
              · rw [List.flatMap_cons, List.flatMap_singleton, continued, outcome]
              · rw [List.flatMap_singleton, outcome]

/-! ### Calls -/

theorem perform_eq (sink : Sink) (call : Call) :
    ((sink.perform call).sink, (sink.perform call).outcome) = sink.writeLines call.lines := by
  cases call with
  | part content => rfl
  | project content => exact sink.writeParts_eq content.parts
  | flush => rfl

/-- Every part is announced if all of them arrive. -/
theorem perform_log {sink : Sink} {project : Project} (arrived : (sink.perform (.project project)).outcome = .ok ()) :
    (sink.perform (.project project)).log = project.scriptLog := by
  obtain ⟨begun, rest, all⟩ := sink.exists_begun project.parts
  have written := (congrArg Prod.snd (sink.perform_eq (.project project))).trans (congrArg Prod.snd all.written)
  cases rest with
  | nil =>
      rw [Project.scriptLog, all.inOrder, List.append_nil]
      exact all.log
  | cons part parts =>
      rw [all.stopped (List.cons_ne_nil part parts)] at written
      dsimp only at written
      rw [arrived] at written
      cases written

theorem perform_offered (limit : Option Nat) (before : List UInt8) (call : Call) :
    ((offered limit before).perform call).sink = offered limit (before ++ call.bytes) ∧
      ((offered limit before).perform call).outcome =
        if call.bytes = [] ∨ FitsWithin limit (before ++ call.bytes) then .ok () else .error .full := by
  have both := (offered limit before).perform_eq call
  rw [writeLines_offered, ← textBytes_text, Prod.mk.injEq] at both
  have silent : call.lines = [] ↔ call.bytes = [] := by
    rw [Call.bytes, textBytes_text, List.flatMap_eq_nil_iff]
    refine ⟨fun none line member => absurd member (by rw [none]; exact List.not_mem_nil), fun none => ?_⟩
    exact List.eq_nil_iff_forall_not_mem.2 fun line member => lineBytes_ne_nil line (none line member)
  refine ⟨both.1, both.2.trans ?_⟩
  simp only [silent]
  rfl

/-- What a call finds depends on all calls before it, and what it leaves on itself too. -/
theorem performAll_offered (limit : Option Nat) (before : List UInt8) (calls : List Call) (place : Nat) :
    ((offered limit before).performAll calls)[place]?.map (fun result => (result.sink, result.outcome)) =
      calls[place]?.map fun call => (offered limit (before ++ callBytes (calls.take (place + 1))),
        if call.bytes = [] ∨ FitsWithin limit (before ++ callBytes (calls.take (place + 1))) then .ok ()
        else .error .full) := by
  induction calls generalizing before place with
  | nil => rfl
  | cons call calls ih =>
      obtain ⟨sameSink, sameOutcome⟩ := perform_offered limit before call
      rw [performAll]
      cases place with
      | zero => simp [sameSink, sameOutcome, callBytes]
      | succ place =>
          rw [List.getElem?_cons_succ, List.getElem?_cons_succ, sameSink, ih]
          simp [callBytes]

def after (sink : Sink) (calls : List Call) : Sink :=
  ((sink.performAll calls).getLast?.map CallResult.sink).getD sink

theorem after_cons (sink : Sink) (call : Call) (calls : List Call) :
    sink.after (call :: calls) = (sink.perform call).sink.after calls := by
  rw [after, performAll, List.getLast?_cons, after]
  cases ((sink.perform call).sink.performAll calls).getLast? <;> rfl

theorem after_offered (limit : Option Nat) (before : List UInt8) (calls : List Call) :
    (offered limit before).after calls = offered limit (before ++ callBytes calls) := by
  induction calls generalizing before with
  | nil => simp [after, performAll, callBytes]
  | cons call calls ih =>
      rw [after_cons, (perform_offered limit before call).1, ih, callBytes, callBytes, List.flatMap_cons,
        List.append_assoc]

end Sink

/-- What becomes of calls in a sink with a limit, seen beside a sink without one. -/
structure KeepsPrefix (limit : Nat) (calls : List Call) : Prop where
  /-- Without a limit, every call adds its own bytes. -/
  unlimited : ∀ place : Nat, ((Sink.empty none).performAll calls)[place]?.map
      (fun result => (result.sink.received, result.outcome)) =
    calls[place]?.map fun _call => (callBytes (calls.take (place + 1)), .ok ())
  /-- With the limit, the bytes are cut there, and the calls that lose some of theirs fail. -/
  limited : ∀ place : Nat, ((Sink.empty (some limit)).performAll calls)[place]?.map
      (fun result => (result.sink.received, result.outcome)) =
    calls[place]?.map fun call => ((callBytes (calls.take (place + 1))).take limit,
      if call.bytes ≠ [] ∧ limit < (callBytes (calls.take (place + 1))).length then .error .full else .ok ())
  total : ((Sink.empty (some limit)).after calls).received = (callBytes calls).take limit

/-- What becomes of a whole project in a sink: it arrives, or nothing is begun behind the line that does not fit. -/
structure ArrivesOrStops (sink : Sink) (project : Project) : Prop where
  success : (sink.perform (.project project)).outcome = .ok () ↔
    (sink.perform (.project project)).sink.received = sink.received ++ textBytes project.script
  begun : ∃ begun rest, Sink.Begun sink project.parts begun rest ∧
    (sink.perform (.project project)).log = begun.flatMap Part.announcement
  stopped : (sink.perform (.project project)).outcome = .error .full → ∃ before line behind,
    project.scriptLines = before ++ line :: behind ∧ (sink.writeLines before).2 = .ok () ∧
      (sink.writeLines before).1.fits (lineBytes line) = false ∧
      (sink.perform (.project project)).sink = (sink.writeLines before).1.put (lineBytes line)

theorem arrivesOrStops (sink : Sink) (project : Project) : ArrivesOrStops sink project := by
  have both := sink.perform_eq (.project project)
  have sameSink : (sink.perform (.project project)).sink = (sink.writeLines project.scriptLines).1 :=
    congrArg Prod.fst both
  have sameOutcome : (sink.perform (.project project)).outcome = (sink.writeLines project.scriptLines).2 :=
    congrArg Prod.snd both
  obtain ⟨begun, rest, all⟩ := sink.exists_begun project.parts
  refine ⟨?_, ⟨begun, rest, all, all.log⟩, ?_⟩
  · rw [sameSink, sameOutcome, Project.script, textBytes_text]
    exact sink.writeLines_ok_iff project.scriptLines
  · rw [sameSink, sameOutcome]
    exact Sink.writeLines_error

theorem keepsPrefix (limit : Nat) (calls : List Call) : KeepsPrefix limit calls where
  unlimited := by
    intro place
    have found := congrArg (Option.map fun state => (state.1.received, state.2))
      (Sink.performAll_offered none [] calls place)
    rw [Option.map_map, Option.map_map, Sink.offered_nil] at found
    refine found.trans (congrArg (Option.map · calls[place]?) (funext fun call => ?_))
    simp only [Function.comp_apply, if_pos (Or.inr (fitsWithin_none _))]
    rfl
  limited := by
    intro place
    have found := congrArg (Option.map fun state => (state.1.received, state.2))
      (Sink.performAll_offered (some limit) [] calls place)
    rw [Option.map_map, Option.map_map, Sink.offered_nil] at found
    refine found.trans (congrArg (Option.map · calls[place]?) (funext fun call => ?_))
    simp only [Function.comp_apply, Sink.offered, keptWithin, List.nil_append, FitsWithin, Option.mem_def,
      Option.some.injEq, forall_eq', Prod.mk.injEq, true_and]
    by_cases silent : call.bytes = []
    · simp [silent]
    · by_cases fits : (callBytes (calls.take (place + 1))).length ≤ limit
      · simp [silent, fits]
      · simp [silent, fits]
  total := by
    rw [← Sink.offered_nil, Sink.after_offered]
    rfl

/-- A sink with a limit holds the beginning of what was to be written, cut at the limit, and a call fails exactly when
some of its bytes are behind the limit. -/
theorem performAll_keepsPrefix (limit : Nat) (calls : List Call) :
    KeepsPrefix limit calls ∧ ∀ sink project, ArrivesOrStops sink project :=
  ⟨keepsPrefix limit calls, arrivesOrStops⟩

end Listfile.Script
