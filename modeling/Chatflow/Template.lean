import Chatflow.Condition
import Chatflow.Conversation

/-!
# Templates

A template holds placeholders in double braces.  Variables are put in one after the other in their order, blanks inside
the braces being allowed; then `user_id` and `timestamp`, and `last_message` and `message` when there is a message, for
which no blanks are allowed.  A text that is put in may itself hold placeholders that a later step replaces.  What is
left stays as it is and is logged (`unresolved`).
-/

namespace Chatflow.Template

/-- What begins a placeholder. -/
def opening : List Char := ['{', '{']

/-- What ends a placeholder. -/
def closing : List Char := ['}', '}']

/-- How much of a text a placeholder of a variable takes at its start, when `blanks` of the blanks behind the braces
are no part of the name. -/
def placeholderAfter (name cs : List Char) (blanks : Nat) : Option Nat :=
  let body := cs.drop (opening.length + blanks)
  if !name.isPrefixOf body then none
  else
    let rest := body.drop name.length
    let gap := (rest.takeWhile Text.isBlank).length
    if closing.isPrefixOf (rest.drop gap) then
      some (opening.length + blanks + name.length + gap + closing.length)
    else none

/-- The pattern of a placeholder of a variable; a name may itself begin with blanks. -/
def placeholder (name cs : List Char) : Option Nat :=
  if !opening.isPrefixOf cs then none
  else
    let blanks := ((cs.drop opening.length).takeWhile Text.isBlank).length
    (List.range (blanks + 1)).reverse.findSome? (placeholderAfter name cs)

/-- Puts a text in for a variable. -/
def putVariable (name new text : List Char) : List Char := Text.replaceAll (placeholder name) new text

/-- Puts a text in for a name that stands right between double braces. -/
def putName (name : String) (new text : List Char) : List Char :=
  Text.replaceAll (Text.word (opening ++ name.toList ++ closing)) new text

/-- Puts variables in, in their order. -/
def putVariables (room : Nat) : Fields → List Char → Except Value.Fault (List Char)
  | [], text => .ok text
  | (name, v) :: rest, text => do putVariables room rest (putVariable name.toList (← v.rendered room).toList text)

/-- The pattern of any placeholder: what stands between the braces, without blanks at its ends. -/
def anyPlaceholder (cs : List Char) : Option (String × Nat) :=
  if !opening.isPrefixOf cs then none
  else
    let inner := (cs.drop opening.length).takeWhile fun c => c != '{' && c != '}'
    if closing.isPrefixOf (cs.drop (opening.length + inner.length)) then
      some (String.ofList (Text.trim inner), inner.length + opening.length + closing.length)
    else none

/-- The names of the placeholders in a text. -/
def unresolved (text : String) : List String := Text.findAll anyPlaceholder text.toList

/-- The record of placeholders that are left. -/
def leftOver (names : List String) (context : Context) : List Record :=
  if names.isEmpty then []
  else
    [{ level := Record.debugging, source := "autoflow.graph.template",
       message := "Leaving unresolved placeholders verbatim: " ++ (Value.list (names.map .text)).literal,
       event := .text "template_unresolved", node := .ofText? context.currentNode }]

/-- A template with all that a context knows put in; `room` tells how deep values may lie inside each other. -/
def fill (room : Nat) (now : Moment) (template : String) (context : Context) : Except Value.Fault String := do
  let text ← putVariables room context.vars template.toList
  let user ← context.user.value.rendered room
  let text := putName "timestamp" now.iso.toList (putName "user_id" user.toList text)
  match context.lastMessage with
  | none => return String.ofList text
  | some m =>
    return String.ofList (putName "message" m.content.toList (putName "last_message" m.content.toList text))

/-- A template filled in, and the record of what is left. -/
def substitute (room : Nat) (now : Moment) (template : String) (context : Context) : Logged (Except Value.Fault String) :=
  match fill room now template context with
  | .ok text => ⟨.ok text, leftOver (unresolved text) context⟩
  | .error fault => ⟨.error fault, []⟩

end Chatflow.Template
