import TableScript.Fault
import TableScript.Input
import TableScript.Text.Utf8

/-! Dialogues: texts shown to a user and answers taken, one line at a time. -/
namespace TableScript.Command

/-- What comes of waiting for a line: there is none left, it is no text, or it is a text, which
still has its line break. -/
inductive Answer where
  | nothing
  | unreadable (fault : Fault)
  | line (text : String)

inductive Dialogue (α : Type) where
  | done (result : α)
  | tell (text : String) (rest : Dialogue α)
  | ask (reply : Answer → Dialogue α)

namespace Dialogue

def bind {α β : Type} : Dialogue α → (α → Dialogue β) → Dialogue β
  | .done result, next => next result
  | .tell text rest, next => .tell text (rest.bind next)
  | .ask reply, next => .ask fun answer => (reply answer).bind next

instance : Monad Dialogue where
  pure := .done
  bind := bind

def andThen {ε α β : Type} (first : Dialogue (Except ε α)) (next : α → Dialogue (Except ε β)) :
    Dialogue (Except ε β) :=
  first.bind fun
    | .ok result => next result
    | .error failure => .done (.error failure)

end Dialogue

def Answer.ofLine (line : List UInt8) : Answer :=
  if line = [] then .nothing
  else match Text.decodeString line with
    | some text => .line text
    | none => .unreadable .notUtf8

structure Conversation (α : Type) where
  result : α
  shown : String
  input : Input

def Dialogue.hold {α : Type} (input : Input) : Dialogue α → Conversation α
  | .done result => ⟨result, "", input⟩
  | .tell text rest =>
    let conversation := rest.hold input
    { conversation with shown := text ++ conversation.shown }
  | .ask reply => (reply (.ofLine input.line)).hold input.afterLine

end TableScript.Command
