import DuckTyping.Session.Step

/-!
# Scripts

A script is a command or a sequence of scripts.  All of its commands work on the same session, one
after the other, and the answers are arranged as the commands are.

Main definitions:

- `Session.Script`, `Session.Answer`: what a session is told to do, and what it gives.
- `Session.perform`: what a script does and gives.
- `Session.run`: the answer to a script on a new session.
-/

namespace DuckTyping
namespace Session

/-- A command or a sequence of scripts. -/
inductive Script where
  | command (command : Command)
  | sequence (scripts : List Script)

/-- The outcome of a command or the answers to a sequence of scripts. -/
inductive Answer where
  | outcome (outcome : Outcome)
  | sequence (answers : List Answer)

mutual

/-- What a script does and gives. -/
def perform (state : State) : Script → Answer × State
  | .command command =>
    let (outcome, revised) := step state command
    (.outcome outcome, revised)
  | .sequence scripts =>
    let (answers, revised) := performAll state scripts
    (.sequence answers, revised)

/-- What scripts do and give, one after the other. -/
def performAll (state : State) : List Script → List Answer × State
  | [] => ([], state)
  | script :: rest =>
    let (answer, revised) := perform state script
    let (answers, final) := performAll revised rest
    (answer :: answers, final)

end

/-- The answer to a script on a new session. -/
def run (script : Script) : Answer :=
  (perform .initial script).1

end Session
end DuckTyping
