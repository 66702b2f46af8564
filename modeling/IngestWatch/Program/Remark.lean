import IngestWatch.Log.Event

/-!
What a run says while it goes on: texts for its reader, and events for the log.
-/

namespace IngestWatch

inductive Remark where
  | printed (text : String)
  | logged (event : Log.Event)
deriving Repr

namespace Remark

/-- Prints a text and ends the line. -/
def line (text : String) : Remark :=
  .printed (text ++ "\n")

def text? : Remark → Option String
  | printed text => some text
  | logged _ => none

def event? : Remark → Option Log.Event
  | printed _ => none
  | logged event => some event

end Remark

/-- What a reader sees of some remarks. -/
def outputOf (remarks : List Remark) : String :=
  String.join (remarks.filterMap Remark.text?)

/-- What the log gets of some remarks. -/
def eventsOf (remarks : List Remark) : List Log.Event :=
  remarks.filterMap Remark.event?

end IngestWatch
