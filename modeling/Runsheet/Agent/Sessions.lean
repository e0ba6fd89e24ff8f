import Runsheet.Agent.Breaker

/-!
# Sessions share one conversation

Both chat methods load the stored history of the request's session into `agent.messages`
and, once the engine has answered, save `agent.messages` under that session id. There is
one `agent.messages` for the whole agent, and it is replaced only by a stored history
that is not empty. A session with nothing stored, a new one or any while the store
cannot be read, keeps the conversation the previous request left behind and saves it as
its own (`chatFallback_persists_inherited`).
-/

namespace Runsheet.Agent

open Runsheet.Resilience

/-! ### Hydrate and persist -/

section Store

variable {sid : String} {w : World}

/-- A session with no stored history leaves the world as it is. -/
theorem hydrate_of_fresh (fresh : ∀ m ms, loadConversationHistory sid w ≠ some (m :: ms)) :
    hydrate (some sid) w = w := by simp [hydrate, fresh]

/-- With the store available, what is persisted under a session id is read back. -/
theorem load_persist (named : sid ≠ "") (available : w.store.isSome) :
    loadConversationHistory sid (persist (some sid) w) = some w.messages := by
  obtain ⟨sessions, stored⟩ := Option.isSome_iff_exists.mp available
  simp [persist, named, saveConversationHistory, loadConversationHistory, stored]

end Store

/-- **A new session inherits the conversation before it.** A fallback request for a
session with nothing stored, when the store is available and the engine answers, saves
under that session the messages the agent already held, followed by its own. -/
theorem chatFallback_persists_inherited (message mode sid : String) (now : Int)
    (engine : Completion) (w : World) (response : Value) (named : sid ≠ "")
    (available : w.store.isSome)
    (fresh : ∀ m ms, loadConversationHistory sid w ≠ some (m :: ms))
    (admitted : ¬(w.breaker.state = .open ∧ w.breaker.shouldAttemptReset now = false))
    (answered : engine.result = .ok response) :
    loadConversationHistory sid (chatFallback message mode (some sid) now engine w).2 =
      some (w.messages ++ engine.appended) := by
  simp only [chatFallback, hydrate_of_fresh fresh, admitted, if_false, answered]
  exact load_persist named available

/-- `run_async` appends the prompt and the reply, and answers. -/
def replyingCompletion (prompt reply : String) : Completion :=
  ⟨[⟨"user", prompt⟩, ⟨"assistant", reply⟩], .ok (.str reply)⟩

/-- A fresh agent whose session store is available and empty. -/
def emptyStoreWorld : World := { freshWorld with store := some [] }

theorem chatFallback_persists_inherited_example :
    loadConversationHistory "b"
      (chatFallback "hello" "chat" (some "b") 1 (replyingCompletion "[Mode: CHAT] hello" "Hi.")
        { emptyStoreWorld with messages := [⟨"user", "x"⟩] }).2 =
      some [⟨"user", "x"⟩, ⟨"user", "[Mode: CHAT] hello"⟩, ⟨"assistant", "Hi."⟩] :=
  chatFallback_persists_inherited "hello" "chat" "b" 1 _ _ (.str "Hi.") (by decide) rfl
    (fun _ _ => by simp [loadConversationHistory, emptyStoreWorld]) (by decide) rfl

/-! ### Two sessions, one after the other -/

/-- A request of session `a`, then one of session `b`. -/
def twoSessionCalls : List ChatCall :=
  [.fallback { message := "where is truck 7?", sessionId := some "a" } 0
     (replyingCompletion "[Mode: CHAT] where is truck 7?" "At the depot."),
   .fallback { message := "hello", sessionId := some "b" } 1
     (replyingCompletion "[Mode: CHAT] hello" "Hi.")]

theorem second_session_saves_first :
    loadConversationHistory "b" (serveAll twoSessionCalls emptyStoreWorld) =
      some [⟨"user", "[Mode: CHAT] where is truck 7?"⟩, ⟨"assistant", "At the depot."⟩,
        ⟨"user", "[Mode: CHAT] hello"⟩, ⟨"assistant", "Hi."⟩] ∧
    loadConversationHistory "b" (serveAll (twoSessionCalls.drop 1) emptyStoreWorld) =
      some [⟨"user", "[Mode: CHAT] hello"⟩, ⟨"assistant", "Hi."⟩] :=
  ⟨rfl, rfl⟩

end Runsheet.Agent
