import Chatflow.Generation.Provider

/-!
# Scripted providers

A script answers with its replies in their order, and with a default one when they are used up; or it fails each time.
-/

namespace Chatflow

/-- What a scripted provider answers. -/
structure Script where
  replies : List Value := []
  default : Value := .text "Mock response"
  failure : Option Fault := none

namespace Script

/-- The reply to the prompt with a number, counted from zero. -/
def reply (script : Script) (n : Nat) : Value := (script.replies[n]?).getD script.default

/-- A script as a provider. -/
def provider (script : Script) : Provider :=
  ⟨fun earlier prompt =>
    match script.failure with
    | some fault => ⟨.error fault, []⟩
    | none =>
      ⟨.ok { content := script.reply earlier.length, model := prompt.model, stopReason := .text "end_turn" }, []⟩⟩

/-- How many replies are left after a number of prompts. -/
def left (script : Script) (asked : Nat) : Nat :=
  if script.failure.isSome then script.replies.length else script.replies.length - asked

end Script

end Chatflow
