import Chatflow.Journal.Record

/-!
# Entries

An entry of the journal is a record together with the trace of the run in which it was made.
-/

namespace Chatflow

/-- What names a run in its log records. -/
abbrev Trace := Fields

/-- The trace at the beginning of a run; what earlier runs left and this one does not set stays. -/
def Trace.begin (trace : Trace) (executionId : String) (workflow : Option String) : Trace :=
  let trace := trace.set "execution_id" (.text executionId)
  match workflow with
  | some id => if id.isEmpty then trace else trace.set "workflow_id" (.text id)
  | none => trace

/-- The trace at a node. -/
def Trace.at (trace : Trace) (node : String) : Trace := trace.set "node_id" (.text node)

/-- A record and the trace with which it was made. -/
structure Entry where
  trace : Trace
  record : Record

/-- The entries of some records with a trace. -/
def Trace.stamp (trace : Trace) (records : List Record) : List Entry := records.map (⟨trace, ·⟩)

end Chatflow
