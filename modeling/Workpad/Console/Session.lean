import Workpad.Console.Basic

/-!
A session: what the user of a console does, one thing after another. Each of them is taken to its
end, or given up where it gets stuck.
-/
namespace Workpad.Console

inductive Action where
  | submit (line : String)
  | enter
  | script (code : String)
  | announce
  | setInput (text : String)
  | recallPrevious
  | recallNext
deriving DecidableEq, Repr

inductive Effect where
  | replied (text : Option String)
  | announced (status : Status)
  | input (text : String)
  /-- It got stuck and was given up. -/
  | cancelled
deriving DecidableEq, Repr

def Effect.ofReply : Option (Option String) → Effect
  | some text => .replied text
  | none => .cancelled

def ask (i : Interpreter) (c : Console) (r : Request) : Effect × Console :=
  let (reply, c) := c.performOrCancel i r
  (.ofReply reply, c)

def act (i : Interpreter) (c : Console) : Action → Effect × Console
  | .submit line => c.ask i (.submit line)
  | .enter =>
    let (r, c) := c.takeInput
    c.ask i r
  | .script code => c.ask i (.script code)
  | .announce =>
    match c.announce with
    | (some status, c) => (.announced status, c)
    | (none, c) => (.cancelled, c)
  | .setInput text => (.input text, c.setInput text)
  | .recallPrevious => (.input c.recallPrevious.input, c.recallPrevious)
  | .recallNext => (.input c.recallNext.input, c.recallNext)

def session (i : Interpreter) (c : Console) (as : List Action) : Console :=
  as.foldl (fun c a => (c.act i a).2) c

end Workpad.Console
