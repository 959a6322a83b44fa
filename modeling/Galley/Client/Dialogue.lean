import Galley.Api.Exchange

/-!
# Dialogues

What a client does with the world outside, step by step: it sends a request and goes on with the
response, reads a file and goes on with its text, writes a file and goes on. A dialogue is a tree of
such steps that is put before any world; `Dialogue.run` carries it out in one. Between two steps the
world may change in any way, since other clients are at work there too.
-/

namespace Galley.Client

/-- Why something outside did not work: a list of causes, each brought about by the next. -/
abbrev Causes := List String

/-- The causes as a message: each is named together with all that brought it about. -/
def Causes.report : Causes → String
  | [] => ""
  | [cause] => cause
  | cause :: causes => String.intercalate ": " (cause :: causes) ++ ": " ++ Causes.report causes

/-- A client's steps up to a result. -/
inductive Dialogue (α : Type) where
  | done (result : α)
  | send (request : Request) (next : Except Causes Response → Dialogue α)
  | load (path : String) (next : Except String String → Dialogue α)
  | save (path : String) (bytes : List UInt8) (next : Except String Unit → Dialogue α)

namespace Dialogue

/-- Goes on with the result of a dialogue. -/
def bind {α β : Type} : Dialogue α → (α → Dialogue β) → Dialogue β
  | done result, f => f result
  | send request next, f => send request fun answer => (next answer).bind f
  | load path next, f => load path fun text => (next text).bind f
  | save path bytes next, f => save path bytes fun outcome => (next outcome).bind f

instance : Monad Dialogue where
  pure := done
  bind := bind

/-- A world: what comes of each kind of step. -/
structure World (m : Type → Type) where
  send : Request → m (Except Causes Response)
  load : String → m (Except String String)
  save : String → List UInt8 → m (Except String Unit)

/-- Carries a dialogue out in a world. -/
def run {m : Type → Type} [Monad m] {α : Type} (world : World m) : Dialogue α → m α
  | done result => pure result
  | send request next => do run world (next (← world.send request))
  | load path next => do run world (next (← world.load path))
  | save path bytes next => do run world (next (← world.save path bytes))

end Dialogue

end Galley.Client
