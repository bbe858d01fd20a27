import Listfile.Proofs.Script.Argument
import Listfile.Script.Listing

set_option autoImplicit false

/-! Listfile text read back as statements: a name, and arguments in parentheses that are words or quoted texts.
A reader takes the text letter by letter. What the writer quotes is read as it was, whatever letters it has;
references to variables inside a text are left alone. -/

namespace Listfile.Script

inductive Argument where
  | word (text : String)
  | quoted (text : String)
  deriving DecidableEq, Repr

structure Statement where
  command : String
  arguments : List Argument
  deriving DecidableEq, Repr

inductive Place where
  | outside (name : List Char)
  | between (command : String) (arguments : List Argument)
  | inWord (command : String) (arguments : List Argument) (letters : List Char)
  | inQuotes (command : String) (arguments : List Argument) (letters : List Char)
  /-- Behind a backslash in quotes: the next letter stands for itself. -/
  | escaped (command : String) (arguments : List Argument) (letters : List Char)
  deriving DecidableEq, Repr

structure Reader where
  statements : List Statement
  place : Place

def isBlank (letter : Char) : Bool := letter == ' ' || letter == '\t' || letter == '\n'

namespace Reader

def start (statements : List Statement) : Reader := ⟨statements, .outside []⟩

def finish (reader : Reader) (command : String) (arguments : List Argument) : Reader :=
  start (reader.statements ++ [⟨command, arguments⟩])

def take (reader : Reader) (letter : Char) : Reader :=
  match reader.place with
  | .outside name =>
    if letter = '(' then { reader with place := .between (String.ofList name) [] }
    else if isBlank letter then reader
    else { reader with place := .outside (name ++ [letter]) }
  | .between command arguments =>
    if letter = ')' then reader.finish command arguments
    else if letter = '"' then { reader with place := .inQuotes command arguments [] }
    else if isBlank letter then reader
    else { reader with place := .inWord command arguments [letter] }
  | .inWord command arguments letters =>
    if letter = ')' then reader.finish command (arguments ++ [.word (String.ofList letters)])
    else if isBlank letter then { reader with place := .between command (arguments ++ [.word (String.ofList letters)]) }
    else { reader with place := .inWord command arguments (letters ++ [letter]) }
  | .inQuotes command arguments letters =>
    if letter = '"' then { reader with place := .between command (arguments ++ [.quoted (String.ofList letters)]) }
    else if letter = '\\' then { reader with place := .escaped command arguments letters }
    else { reader with place := .inQuotes command arguments (letters ++ [letter]) }
  | .escaped command arguments letters => { reader with place := .inQuotes command arguments (letters ++ [letter]) }

def takeText (reader : Reader) (text : String) : Reader := text.toList.foldl take reader

theorem takeText_append (reader : Reader) (first second : String) :
    reader.takeText (first ++ second) = (reader.takeText first).takeText second := by
  rw [takeText, takeText, takeText, String.toList_append, List.foldl_append]

theorem take_readsEscapes (statements : List Statement) (command : String) (arguments : List Argument) :
    ReadsEscapes fun letters rest => rest.foldl take ⟨statements, .inQuotes command arguments letters⟩ where
  plain := by
    intro letters letter rest noBackslash noQuote
    rw [List.foldl_cons, take]
    simp only [if_neg noBackslash, if_neg noQuote]
  escaped := fun _letters _letter _rest => rfl

theorem takeText_quote (statements : List Statement) (command : String) (arguments : List Argument) (text : String) :
    takeText ⟨statements, .between command arguments⟩ (quote text) =
      ⟨statements, .between command (arguments ++ [.quoted text])⟩ := by
  have opened : takeText ⟨statements, .between command arguments⟩ "\"" =
      ⟨statements, .inQuotes command arguments []⟩ := rfl
  have inside : takeText ⟨statements, .inQuotes command arguments []⟩ (String.ofList (text.toList.flatMap escape)) =
      ⟨statements, .inQuotes command arguments text.toList⟩ := by
    have read := (take_readsEscapes statements command arguments).read_flatMap_escape [] text.toList []
    rw [takeText, String.toList_ofList]
    rwa [List.append_nil, List.nil_append, List.foldl_nil] at read
  have closed : takeText ⟨statements, .inQuotes command arguments text.toList⟩ "\"" =
      ⟨statements, .between command (arguments ++ [.quoted (String.ofList text.toList)])⟩ := rfl
  rw [quote, takeText_append, takeText_append, opened, inside, closed, String.ofList_toList]

theorem takeText_quotes (statements : List Statement) (command : String) (arguments : List Argument)
    (texts : List String) :
    takeText ⟨statements, .between command arguments⟩ (" ".intercalate (texts.map quote)) =
      ⟨statements, .between command (arguments ++ texts.map .quoted)⟩ := by
  induction texts generalizing arguments with
  | nil =>
      rw [List.map_nil, String.intercalate_nil, List.map_nil, List.append_nil]
      rfl
  | cons first texts ih =>
      cases texts with
      | nil => exact takeText_quote statements command arguments first
      | cons second texts =>
          have blank : ∀ given, takeText ⟨statements, .between command given⟩ " " =
              ⟨statements, .between command given⟩ := fun _given => rfl
          rw [List.map_cons, List.map_cons, String.intercalate_cons_cons, takeText_append, takeText_append,
            takeText_quote, blank, ← List.map_cons, ih, List.append_assoc]
          rfl

end Reader

def readStatements (text : String) : Option (List Statement) :=
  let reader := (Reader.start []).takeText text
  if reader.place = .outside [] then some reader.statements else none

/-- Whether lines are read as these statements, wherever they stand between statements. -/
def Reads (lines : List String) (statements : List Statement) : Prop :=
  ∀ before, (Reader.start before).takeText (text lines) = Reader.start (before ++ statements)

theorem readStatements_of_reads {lines : List String} {statements : List Statement} (reads : Reads lines statements) :
    readStatements (text lines) = some statements := by
  rw [readStatements, reads []]
  rfl

theorem text_append (first second : List String) : text (first ++ second) = text first ++ text second := by
  rw [text, text, text, List.map_append, String.join_append]

theorem text_singleton (line : String) : text [line] = line ++ "\n" := by
  simp [text]

theorem Reads.nil : Reads [] [] := by
  intro before
  rw [List.append_nil]
  rfl

theorem Reads.append {first second : List String} {firstRead secondRead : List Statement}
    (readsFirst : Reads first firstRead) (readsSecond : Reads second secondRead) :
    Reads (first ++ second) (firstRead ++ secondRead) := by
  intro before
  rw [text_append, Reader.takeText_append, readsFirst, readsSecond, List.append_assoc]

theorem Reads.cons {line : String} {lines : List String} {statement : Statement} {statements : List Statement}
    (readsLine : Reads [line] [statement]) (readsLines : Reads lines statements) :
    Reads (line :: lines) (statement :: statements) :=
  readsLine.append readsLines

theorem Reads.blank {lines : List String} {statements : List Statement} (readsLines : Reads lines statements) :
    Reads ("" :: lines) statements := by
  have nothing : Reads [""] [] := by
    intro before
    rw [text_singleton, List.append_nil]
    rfl
  exact nothing.append readsLines

theorem Reads.flatMap {α : Type} {items : List α} {lines : α → List String} {statements : α → List Statement}
    (reads : ∀ item ∈ items, Reads (lines item) (statements item)) :
    Reads (items.flatMap lines) (items.flatMap statements) := by
  induction items with
  | nil => exact Reads.nil
  | cons item items ih =>
      rw [List.forall_mem_cons] at reads
      rw [List.flatMap_cons, List.flatMap_cons]
      exact reads.1.append (ih reads.2)

/-- A line with texts that may hold any letters. What stands around the texts is read apart from them. -/
theorem reads_quotes {front back command : String} {contents : List String} {arguments others : List Argument}
    (opened : ∀ before, (Reader.start before).takeText front = ⟨before, .between command arguments⟩)
    (closed : ∀ before, Reader.takeText ⟨before, .between command (arguments ++ contents.map .quoted)⟩ (back ++ "\n") =
      Reader.start (before ++ [⟨command, others⟩])) :
    Reads [front ++ " ".intercalate (contents.map quote) ++ back] [⟨command, others⟩] := by
  intro before
  have parted : front ++ " ".intercalate (contents.map quote) ++ back ++ "\n" =
      front ++ (" ".intercalate (contents.map quote) ++ (back ++ "\n")) := by
    simp only [String.append_assoc]
  rw [text_singleton, parted, Reader.takeText_append, opened, Reader.takeText_append, Reader.takeText_quotes, closed]

theorem reads_quoted {front back command content : String} {arguments others : List Argument}
    (opened : ∀ before, (Reader.start before).takeText front = ⟨before, .between command arguments⟩)
    (closed : ∀ before, Reader.takeText ⟨before, .between command (arguments ++ [.quoted content])⟩ (back ++ "\n") =
      Reader.start (before ++ [⟨command, others⟩])) :
    Reads [front ++ quote content ++ back] [⟨command, others⟩] := by
  have read : Reads [front ++ " ".intercalate ([content].map quote) ++ back] [⟨command, others⟩] :=
    reads_quotes opened closed
  rwa [List.map_singleton, String.intercalate_singleton] at read

end Listfile.Script
