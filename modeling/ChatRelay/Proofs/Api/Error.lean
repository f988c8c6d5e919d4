import ChatRelay.Api.Error

/-! How the service answers an error: the status and code pick out the kind of
error, and in production a response is the client's own validation message or
one of five fixed responses. -/
namespace ChatRelay.Api

open Chat Hub Config

namespace AppError

/-- The error is answered at all: a hub error that stops the program never is. -/
def answered : AppError → Bool
  | .hub e => !e.stops
  | _ => true

def detail : AppError → String
  | .config e => e.text
  | .validation m => m
  | .chat e => e.message
  | .hub e => e.message
  | .internal m => m

/-- The five responses of production, one per code. -/
def fixedResponses : List ErrorResponse :=
  [⟨400, "VALIDATION_ERROR", HubError.emptyUsername.message⟩,
    ⟨503, "HUB_UNAVAILABLE", "Service shutting down"⟩,
    ⟨500, "CONFIG_ERROR", "Configuration error"⟩,
    ⟨500, "STORE_ERROR", "Message store temporarily unavailable"⟩,
    ⟨500, "INTERNAL_ERROR", "Internal server error"⟩]

variable (production : Bool)

/-- The status and code of a response pick out the kind of error. -/
theorem response_kinds (e : AppError) :
    let r := e.response production
    ((r.status = 400 ∧ r.code = "VALIDATION_ERROR") ↔ (∃ m, e = .validation m) ∨ e = .hub .emptyUsername) ∧
    (e.answered = true →
      ((r.status = 503 ∧ r.code = "HUB_UNAVAILABLE") ↔ e = .hub .closed ∨ ∃ n, e = .hub (.invalidCapacity n))) ∧
    ((r.status = 500 ∧ r.code = "CONFIG_ERROR") ↔ ∃ c, e = .config c) ∧
    ((r.status = 500 ∧ r.code = "STORE_ERROR") ↔ ∃ c, e = .chat c) ∧
    ((r.status = 500 ∧ r.code = "INTERNAL_ERROR") ↔ ∃ m, e = .internal m) := by
  cases e with
  | hub h =>
    cases h with
    | queueTooLong n => simp [response, answered, HubError.stops]
    | _ => simp [response]
  | _ => simp [response]

/-- In production every error but a validation error gets one of the five fixed
responses. -/
theorem production_response_mem (e : AppError) (answers : e.answered = true)
    (notValidation : ∀ m, e ≠ .validation m) : e.response true ∈ fixedResponses := by
  cases e with
  | validation m => exact absurd rfl (notValidation m)
  | hub h =>
    cases h with
    | queueTooLong n => simp [answered, HubError.stops] at answers
    | _ => simp [response, shown, fixedResponses]
  | _ => simp [response, shown, fixedResponses]

theorem fixedResponses_code_inj {r r' : ErrorResponse} (mem : r ∈ fixedResponses)
    (mem' : r' ∈ fixedResponses) (code : r.code = r'.code) : r = r' := by
  simp only [fixedResponses, List.mem_cons, List.not_mem_nil, or_false] at mem mem'
  rcases mem with rfl | rfl | rfl | rfl | rfl <;> rcases mem' with rfl | rfl | rfl | rfl | rfl <;>
    simp_all

theorem message_of_not_production (e : AppError) : (e.response false).message = e.detail := by
  cases e with
  | hub h => cases h <;> rfl
  | _ => rfl

/-- The body is `{"error":{"code":…,"message":…}}`, in that order. -/
theorem body_render (r : ErrorResponse) :
    r.body.render = "\x7b\"error\":\x7b\"code\":" ++ Json.quote r.code ++ ",\"message\":" ++
      Json.quote r.message ++ "\x7d\x7d" := by
  have error : Json.quote "error" = "\"error\"" := by decide
  have code : Json.quote "code" = "\"code\"" := by decide
  have message : Json.quote "message" = "\"message\"" := by decide
  simp only [ErrorResponse.body, Json.Value.render, Json.renderMembers, error, code, message,
    String.append_assoc]
  rfl

end AppError

/-- How the service answers an error. The run mode is production exactly when
it is `production` or `prod`. In every mode the status and code of a response
pick out the kind of error: 400 `VALIDATION_ERROR` exactly for a validation
error and an empty username, 503 `HUB_UNAVAILABLE` exactly for a closed hub and
an invalid capacity, and 500 with `CONFIG_ERROR`, `STORE_ERROR` or
`INTERNAL_ERROR` exactly for configuration, chat and internal errors; the body
is `{"error":{"code":…,"message":…}}`. In production two errors other than
validation errors with the same code get the same response, whatever their
details, and it is one of five fixed responses. Outside production the message
is the text of the wrapped error, without the variant's name that the error's
own display puts before it. -/
theorem error_responses :
    (∀ runMode, isProduction runMode = true ↔ runMode = some "production" ∨ runMode = some "prod") ∧
    (∀ production e,
      let r := AppError.response production e
      ((r.status = 400 ∧ r.code = "VALIDATION_ERROR") ↔ (∃ m, e = .validation m) ∨ e = .hub .emptyUsername) ∧
      (e.answered = true →
        ((r.status = 503 ∧ r.code = "HUB_UNAVAILABLE") ↔ e = .hub .closed ∨ ∃ n, e = .hub (.invalidCapacity n))) ∧
      ((r.status = 500 ∧ r.code = "CONFIG_ERROR") ↔ ∃ c, e = .config c) ∧
      ((r.status = 500 ∧ r.code = "STORE_ERROR") ↔ ∃ c, e = .chat c) ∧
      ((r.status = 500 ∧ r.code = "INTERNAL_ERROR") ↔ ∃ m, e = .internal m) ∧
      r.body.render = "\x7b\"error\":\x7b\"code\":" ++ Json.quote r.code ++ ",\"message\":" ++
        Json.quote r.message ++ "\x7d\x7d") ∧
    (∀ e e' : AppError, e.answered = true → e'.answered = true → (∀ m, e ≠ .validation m) →
      (∀ m, e' ≠ .validation m) → (e.response true).code = (e'.response true).code →
      e.response true = e'.response true ∧ e.response true ∈ AppError.fixedResponses) ∧
    (∀ e : AppError, (e.response false).message = e.detail) := by
  refine ⟨fun runMode => ?_, fun production e => ?_, ?_, AppError.message_of_not_production⟩
  · cases runMode with
    | none => simp [isProduction]
    | some m => by_cases p : m = "production" <;> by_cases q : m = "prod" <;> simp [isProduction, p, q]
  · obtain ⟨badRequest, unavailable, config, store, internal⟩ := AppError.response_kinds production e
    exact ⟨badRequest, unavailable, config, store, internal, AppError.body_render _⟩
  · intro e e' answers answers' notValidation notValidation' code
    have mem := AppError.production_response_mem e answers notValidation
    have mem' := AppError.production_response_mem e' answers' notValidation'
    exact ⟨AppError.fixedResponses_code_inj mem mem' code, mem⟩

/-- In production two store failures with different texts get the same response,
and an invalid capacity makes the service unavailable. -/
theorem error_responses_hide_store_texts :
    let e := AppError.chat (.query (.unavailable "connection reset"))
    let e' := AppError.chat (.persistence (.database (.protocol "bad row")))
    let h := AppError.hub (.invalidCapacity 0)
    (h.answered = true ∧ e.answered = true ∧ e'.answered = true ∧ (∀ m, e ≠ .validation m) ∧
      (∀ m, e' ≠ .validation m) ∧ (e.response true).code = (e'.response true).code) ∧
    ((h.response true).status = 503 ∧ (h.response true).code = "HUB_UNAVAILABLE") ∧
    e.response true = e'.response true :=
  have facts : (AppError.hub (.invalidCapacity 0)).answered = true ∧
      (AppError.chat (.query (.unavailable "connection reset"))).answered = true ∧
      (AppError.chat (.persistence (.database (.protocol "bad row")))).answered = true ∧
      (∀ m, AppError.chat (.query (.unavailable "connection reset")) ≠ .validation m) ∧
      (∀ m, AppError.chat (.persistence (.database (.protocol "bad row"))) ≠ .validation m) ∧
      ((AppError.chat (.query (.unavailable "connection reset"))).response true).code =
        ((AppError.chat (.persistence (.database (.protocol "bad row")))).response true).code :=
    ⟨rfl, rfl, rfl, by simp, by simp, rfl⟩
  ⟨facts, ((error_responses.2.1 true _).2.1 facts.1).mpr (.inr ⟨0, rfl⟩),
    (error_responses.2.2.1 _ _ facts.2.1 facts.2.2.1 facts.2.2.2.1 facts.2.2.2.2.1 facts.2.2.2.2.2).1⟩

end ChatRelay.Api
