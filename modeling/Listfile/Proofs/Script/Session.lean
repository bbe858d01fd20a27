import Listfile.Proofs.Script.Statements

set_option autoImplicit false

/-! What statements do to variables: assignments, and blocks that are passed over unless a comparison holds. Only the
left side of a comparison refers to a variable; all other texts are taken as they are. A statement of another
kind is not understood, and nothing is said about what comes after it. -/

namespace Listfile.Script

structure Session where
  values : String → String
  /-- For each open block, innermost first, whether its condition held. -/
  blocks : List Bool
  assigned : List (String × String)

namespace Session

def start (values : String → String) : Session := ⟨values, [], []⟩

@[simp] theorem values_start (values : String → String) : (start values).values = values := rfl

@[simp] theorem assigned_start (values : String → String) : (start values).assigned = [] := rfl

def isActive (session : Session) : Bool := session.blocks.all id

def assign (session : Session) (name value : String) : Session :=
  { session with
    values := fun other => if other = name then value else session.values other
    assigned := session.assigned ++ [(name, value)] }

def assignAll (session : Session) (settings : List (String × String)) : Session :=
  settings.foldl (fun before setting => before.assign setting.1 setting.2) session

/-- The value of the variable that a text refers to, or the text itself. -/
def expand (session : Session) (content : String) : String :=
  if isVariableReference content then session.values (String.ofList (content.toList.drop 2).dropLast) else content

def perform (session : Session) (statement : Statement) : Option Session :=
  match statement.command, statement.arguments with
  | "if", [.quoted left, .word "STREQUAL", .quoted right] =>
    some { session with blocks := decide (session.expand left = right) :: session.blocks }
  | "endif", [] =>
    match session.blocks with
    | [] => none
    | _ :: outer => some { session with blocks := outer }
  | "set", .word name :: .quoted value :: _ => some (if session.isActive then session.assign name value else session)
  | "set_property", _ => some session
  | "message", _ => some session
  | _, _ => none

def run (session : Session) : List Statement → Option Session
  | [] => some session
  | statement :: statements => (session.perform statement).bind fun after => after.run statements

theorem run_append (session : Session) (first second : List Statement) :
    session.run (first ++ second) = (session.run first).bind fun after => after.run second := by
  induction first generalizing session with
  | nil => rfl
  | cons statement first ih =>
      rw [List.cons_append, run, run, Option.bind_assoc]
      exact Option.bind_congr fun after _performed => ih after

@[simp] theorem values_assign_self (session : Session) (name value : String) :
    (session.assign name value).values name = value :=
  if_pos rfl

@[simp] theorem values_assign_of_ne (session : Session) {name other : String} (apart : other ≠ name)
    (value : String) : (session.assign name value).values other = session.values other :=
  if_neg apart

theorem assignAll_append (session : Session) (first second : List (String × String)) :
    session.assignAll (first ++ second) = (session.assignAll first).assignAll second :=
  List.foldl_append

theorem assigned_assignAll (session : Session) (settings : List (String × String)) :
    (session.assignAll settings).assigned = session.assigned ++ settings := by
  induction settings generalizing session with
  | nil => exact (List.append_nil _).symm
  | cons setting settings ih =>
      rw [assignAll, List.foldl_cons]
      exact (ih _).trans (List.append_assoc _ _ _)

theorem blocks_assignAll (session : Session) (settings : List (String × String)) :
    (session.assignAll settings).blocks = session.blocks := by
  induction settings generalizing session with
  | nil => rfl
  | cons setting settings ih => exact ih _

theorem values_assignAll {name : String} {settings : List (String × String)}
    (untouched : ∀ setting ∈ settings, setting.1 ≠ name) (session : Session) :
    (session.assignAll settings).values name = session.values name := by
  induction settings generalizing session with
  | nil => rfl
  | cons setting settings ih =>
      rw [List.forall_mem_cons] at untouched
      rw [assignAll, List.foldl_cons]
      exact (ih untouched.2 _).trans (session.values_assign_of_ne (Ne.symm untouched.1) setting.2)

theorem assignAll_blocks (session : Session) (blocks : List Bool) (settings : List (String × String)) :
    assignAll { session with blocks := blocks } settings = { session.assignAll settings with blocks := blocks } := by
  induction settings generalizing session with
  | nil => rfl
  | cons setting settings ih => exact ih (session.assign setting.1 setting.2)

/-- Whether statements do these assignments where they are carried out, and nothing elsewhere. -/
def Assigns (statements : List Statement) (settings : List (String × String)) : Prop :=
  ∀ session : Session, session.run statements = some (if session.isActive then session.assignAll settings else session)

theorem Assigns.nil : Assigns [] [] := fun session => by
  rw [run, assignAll, List.foldl_nil, ite_self]

theorem Assigns.set {statements : List Statement} {settings : List (String × String)}
    (assigns : Assigns statements settings) (name value : String) (options : List Argument) :
    Assigns (⟨"set", .word name :: .quoted value :: options⟩ :: statements) ((name, value) :: settings) := by
  intro session
  have first : session.perform ⟨"set", .word name :: .quoted value :: options⟩ =
      some (if session.isActive then session.assign name value else session) := rfl
  rw [run, first, Option.bind_some, assigns]
  cases active : session.isActive with
  | false => simp [active]
  | true =>
      have stillActive : (session.assign name value).isActive = true := active
      simp [stillActive, assignAll]

theorem Assigns.message {statements : List Statement} {settings : List (String × String)}
    (assigns : Assigns statements settings) (arguments : List Argument) :
    Assigns (⟨"message", arguments⟩ :: statements) settings :=
  fun session => assigns session

def guarded (configuration : String) (statements : List Statement) : List Statement :=
  ⟨"if", [.quoted (variableReference buildTypeVariable), .word "STREQUAL", .quoted configuration]⟩ ::
    (statements ++ [⟨"endif", []⟩])

theorem run_guarded {statements : List Statement} {settings : List (String × String)}
    (assigns : Assigns statements settings) (configuration : String) {session : Session} (outside : session.blocks = []) :
    session.run (guarded configuration statements) =
      some (if session.values buildTypeVariable = configuration then session.assignAll settings else session) := by
  have opened : session.perform
      ⟨"if", [.quoted (variableReference buildTypeVariable), .word "STREQUAL", .quoted configuration]⟩ =
      some { session with blocks := [decide (session.values buildTypeVariable = configuration)] } := by
    rw [← outside]
    rfl
  have closed : ∀ (after : Session) (held : Bool), run { after with blocks := [held] } [⟨"endif", []⟩] =
      some { after with blocks := [] } := fun _after _held => rfl
  rw [guarded, run, opened, Option.bind_some, run_append, assigns]
  by_cases same : session.values buildTypeVariable = configuration
  · have active : isActive { session with blocks := [decide (session.values buildTypeVariable = configuration)] } =
        true := by simp [isActive, same]
    have kept : { session.assignAll settings with blocks := [] } = session.assignAll settings := by
      rw [← outside, ← blocks_assignAll session settings]
    rw [if_pos active, if_pos same, Option.bind_some, assignAll_blocks, closed, kept]
  · have passed : isActive { session with blocks := [decide (session.values buildTypeVariable = configuration)] } =
        false := by simp [isActive, same]
    rw [passed, if_neg Bool.false_ne_true, if_neg same, Option.bind_some, closed, ← outside]

end Session

def execute (content : String) (values : String → String) : Option Session :=
  (readStatements content).bind (Session.start values).run

end Listfile.Script
