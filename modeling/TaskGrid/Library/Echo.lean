import TaskGrid.Worker.Service

/-!
The echo service: every method answers with its input.
-/

namespace TaskGrid.Library

def echo (ω : Type) : Service ω String String where
  create _ name w := (.ok name, w)
  enter name session w := (.ok session, name, w)
  leave name _ w := (.ok (), name, w)
  call name session _ input w := (.ok (.ok input), name, session, w)
  release _ w := (.ok (), w)

/-- An echo service that also tells its session, and fails or panics when asked to. -/
def plain (ω : Type) : Service ω Unit String where
  create _ _ w := (.ok (), w)
  enter _ session w := (.ok session, (), w)
  leave _ _ w := (.ok (), (), w)
  call _ session method input w :=
    let outcome := match method with
      | "Fail" => .ok (.error "native failure")
      | "Panic" => .error (.text "native bug")
      | "Session" => .ok (.ok (Utf8.encode session))
      | _ => .ok (.ok input)
    (outcome, (), session, w)
  release _ w := (.ok (), w)

end TaskGrid.Library
