import TickScript.Effect.Transition
import TickScript.Text.Template

/-! # Messages

    Messages are templates from the library's strings.  They are printed to the console, or kept
    as lines on an entity's clipboard.
-/

namespace TickScript.Effect

namespace MessageTag

@[match_pattern] def params : UInt8 := 0
/-- The index of the template. -/
@[match_pattern] def text : UInt8 := 1

end MessageTag

/-- A parameter is a float or an integer. -/
def parameter (v : Value) : Value := if v.isFloat then v else .ofInt32 v.toInt32

/-- Evaluates the parameters of a record. -/
def readParams (r : ArgRecord) : Visiting (List Value) Unit := do
  let values ← r.expressions.mapM fun code => do return parameter (← Visiting.evaluate code)
  Visiting.revise fun _ => values

/-- The message of a record, with the parameters of the last record before. -/
def message (r : ArgRecord) : Visiting (List Value) String := do
  let index ← Visiting.int r
  let template ← Act.ofExcept ((← Act.machine).strings.resolve index)
  return fillTemplate template (← Visiting.plan)

/-- **Prints messages.**  There are no redirects. -/
def printToConsole (origin : EntityId) (args : ArgBlock) : Act Unit := do
  let _ ← visitBlock origin args ([] : List Value) (fun _ => return true) fun r => do
    match r.tag with
    | MessageTag.params => readParams r
    | MessageTag.text =>
      let line ← message r
      Act.print (← Act.entity origin).playerNo line
    | _ => pure ()
    return true

/-- The lines of a text. -/
def lines (s : String) : List String := (s.toList.splitOn '\n').map String.ofList

/-- How a message changes the clipboard. -/
inductive ClipboardMode where
  | replace
  | append
  deriving DecidableEq

/-- **Puts messages on the target's clipboard.** -/
def clipboard (mode : ClipboardMode) (origin : EntityId) (args : ArgBlock) : Act Unit := do
  let _ ← visitBlock origin args ([] : List Value) Visiting.redirect fun r => do
    match r.tag with
    | MessageTag.params => readParams r
    | MessageTag.text =>
      let new := lines (← message r)
      Visiting.updateTarget fun e =>
        { e with clipboard := if mode = .replace then new else e.clipboard ++ new }
    | _ => pure ()
    return true

/-- **Clears the clipboard.** -/
def clearClipboard (origin : EntityId) (args : ArgBlock) : Act Unit :=
  eachRecord origin args fun r => do
    match r.tag with
    | valueTag => Visiting.updateTarget fun e => { e with clipboard := [] }
    | _ => pure ()

end TickScript.Effect
