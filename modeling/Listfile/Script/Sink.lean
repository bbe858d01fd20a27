import Listfile.Script.Listing

set_option autoImplicit false

/-! Writing to a sink that may take only a limited number of bytes. What does not fit is lost: the sink
keeps the bytes that still fit, and the write that lost some fails. Nothing is written after a failure
within one call, but later calls are made all the same. -/

namespace Listfile.Script

structure Sink where
  limit : Option Nat
  received : List UInt8

def Sink.empty (limit : Option Nat) : Sink := ⟨limit, []⟩

inductive SinkFault where
  | full
  deriving DecidableEq, Repr

def SinkFault.message : SinkFault → String
  | .full => "failed to write whole buffer"

def textBytes (text : String) : List UInt8 := text.toList.flatMap String.utf8EncodeChar

namespace Sink

def accepted (sink : Sink) (bytes : List UInt8) : List UInt8 :=
  match sink.limit with
  | none => bytes
  | some limit => bytes.take (limit - sink.received.length)

def put (sink : Sink) (bytes : List UInt8) : Sink := { sink with received := sink.received ++ sink.accepted bytes }

def fits (sink : Sink) (bytes : List UInt8) : Bool := (sink.accepted bytes).length == bytes.length

def writeLines (sink : Sink) : List String → Sink × Except SinkFault Unit
  | [] => (sink, .ok ())
  | line :: lines =>
    let bytes := textBytes (line ++ "\n")
    if sink.fits bytes then (sink.put bytes).writeLines lines else (sink.put bytes, .error .full)

/-- Writes parts up to the first one that does not fit, and logs the announcement of each that is begun. -/
def writeParts (sink : Sink) : List Part → Sink × Except SinkFault Unit × List LogRecord
  | [] => (sink, .ok (), [])
  | part :: parts =>
    match sink.writeLines part.lines with
    | (after, .ok ()) =>
      let (last, outcome, log) := after.writeParts parts
      (last, outcome, part.announcement ++ log)
    | (after, .error fault) => (after, .error fault, part.announcement)

end Sink

/-- One request to a writer: a single part, a whole project, or delivery of what is buffered. -/
inductive Call where
  | part (content : Part)
  | project (content : Project)
  | flush

def Call.lines : Call → List String
  | .part content => content.lines
  | .project content => content.scriptLines
  | .flush => []

structure CallResult where
  sink : Sink
  outcome : Except SinkFault Unit
  log : List LogRecord

def Sink.perform (sink : Sink) : Call → CallResult
  | .part content =>
    let (after, outcome) := sink.writeLines content.lines
    ⟨after, outcome, []⟩
  | .project content =>
    let (after, outcome, log) := sink.writeParts content.parts
    ⟨after, outcome, log⟩
  | .flush => ⟨sink, .ok (), []⟩

def Sink.performAll (sink : Sink) : List Call → List CallResult
  | [] => []
  | call :: calls =>
    let result := sink.perform call
    result :: result.sink.performAll calls

end Listfile.Script
