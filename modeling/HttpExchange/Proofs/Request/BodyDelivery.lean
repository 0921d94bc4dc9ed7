import HttpExchange.Proofs.Request.Identity
import HttpExchange.Request.Operation

/-! The body of a request over whole runs: the first operation that asks for it gets all of it,
every later one gets nothing, and no other operation tells whether it is there. -/

namespace HttpExchange

/-- All that reading a body can come to: nothing without one, the octets of all its pieces in
order, or the failure in which it ends, whatever has come before. -/
inductive Body.Reading : Option Body → Except String Bytes → Prop
  | nothing : Reading none (.ok [])
  | whole (pieces : List Bytes) : Reading (some { pieces }) (.ok pieces.flatten)
  | broken (pieces : List Bytes) (failure : String) :
      Reading (some { pieces, failure := some failure }) (.error failure)

namespace Request

/-! ## Operations without the body -/

section OtherBodies

variable (request : Request) (body : Option Body)

theorem resolveForwarding_withBody (configuration : Configuration) :
    { request with body }.resolveForwarding configuration =
      ({ (request.resolveForwarding configuration).1 with body },
        (request.resolveForwarding configuration).2) := by
  have leaves : LeavesHost fun request => { request with body } :=
    ⟨fun _ => rfl, fun _ _ _ => rfl⟩
  exact leaves.resolveForwarding rfl rfl fun _ => rfl

/-- The operation hands the body out, as it is or as what can be read of it. -/
def Operation.HandsOut (operation : Operation) : Prop :=
  operation = .takeBody ∨ operation = .readBody

instance (operation : Operation) : Decidable operation.HandsOut :=
  inferInstanceAs (Decidable (_ ∨ _))

/-- An operation that does not hand out the body does the same and answers the same with any body,
and leaves it as it is. -/
theorem perform_withBody {operation : Operation} (other : ¬operation.HandsOut) :
    { request with body }.perform operation =
      ({ (request.perform operation).1 with body }, (request.perform operation).2) := by
  cases operation with
  | resolveFormat =>
      rw [perform, perform, resolveFormat_eq, resolveFormat_eq]
  | resolveForwarding configuration =>
      rw [perform, perform, resolveForwarding_withBody]
  | takeBody => exact absurd (.inl rfl) other
  | readBody => exact absurd (.inr rfl) other
  | addToAttribute name amount =>
      rw [perform, perform]
      cases request.attributes.add? name amount <;> rfl
  | _ => rfl

end OtherBodies

/-! ## Runs -/

/-- What is left of a body behind these operations. -/
def bodyBehind (operations : List Operation) (body : Option Body) : Option Body :=
  if ∃ operation ∈ operations, operation.HandsOut then none else body

theorem body_perform (request : Request) (operation : Operation) :
    (request.perform operation).1.body = if operation.HandsOut then none else request.body := by
  by_cases handsOut : operation.HandsOut
  · rw [if_pos handsOut]
    rcases handsOut with rfl | rfl
    · rfl
    · rw [perform, readBody, takeBody]
      cases request.body <;> rfl
  · rw [if_neg handsOut]
    exact congrArg (fun done => done.1.body) (request.perform_withBody request.body handsOut)

theorem body_performAll (request : Request) (operations : List Operation) :
    (request.performAll operations).1.body = bodyBehind operations request.body := by
  induction operations generalizing request with
  | nil => rfl
  | cons operation later induction =>
      rw [performAll, induction, body_perform, bodyBehind, bodyBehind]
      by_cases now : operation.HandsOut <;> simp [now]

theorem reply_performAll (request : Request) (earlier : List Operation) (operation : Operation)
    (later : List Operation) :
    (request.performAll (earlier ++ operation :: later)).2[earlier.length]? =
      some ((request.performAll earlier).1.perform operation).2 := by
  induction earlier generalizing request with
  | nil => rfl
  | cons first earlier induction => exact induction _

theorem exists_reading (request : Request) :
    ∃ outcome, (request.perform .readBody).2 = .body outcome ∧
      Body.Reading request.body outcome := by
  rw [perform, readBody, takeBody]
  rcases request.body with _ | ⟨pieces, _ | failure⟩
  · exact ⟨_, rfl, .nothing⟩
  · exact ⟨_, rfl, .whole pieces⟩
  · exact ⟨_, rfl, .broken pieces failure⟩

theorem body_of_created {raw : RawRequest} {configuration : Configuration} {request : Request}
    (created : create raw configuration = .ok request) : request.body = raw.body := by
  rcases create_eq_ok created with ⟨resolved, resolution, rfl, _⟩
  rw [authorize_eq, resolveFormat_eq]
  exact (congrArg Request.body resolution.eq_with_identity :)

/-- A body is handed out at most once. A request that is derived with one has it until the first
operation that takes or reads it, whatever else is done. That one gets all of it: the body itself,
the octets of all its pieces, or the failure in which it ends, and each of them uses it up. Later
ones get nothing, which is no failure. Any other operation does and answers the same whether there
is a body or not, and leaves it alone. -/
theorem body_is_handed_out_once (raw : RawRequest) (configuration : Configuration)
    (request : Request) (created : create raw configuration = .ok request) :
    (∀ operations, (request.performAll operations).1.hasBody = true ↔
      raw.body.isSome = true ∧ ∀ operation ∈ operations, ¬operation.HandsOut) ∧
    (∀ earlier later,
      (request.performAll earlier).1.takeBody.2 = bodyBehind earlier raw.body ∧
      (request.performAll (earlier ++ .takeBody :: later)).2[earlier.length]? =
        some (.truth (bodyBehind earlier raw.body).isSome) ∧
      ∃ outcome,
        (request.performAll (earlier ++ .readBody :: later)).2[earlier.length]? =
          some (.body outcome) ∧
        Body.Reading (bodyBehind earlier raw.body) outcome) ∧
    ∀ (other : Request) operation, ¬operation.HandsOut → ∀ body,
      { other with body }.perform operation =
        ({ (other.perform operation).1 with body }, (other.perform operation).2) := by
  have left : ∀ operations,
      (request.performAll operations).1.body = bodyBehind operations raw.body := by
    intro operations
    rw [body_performAll, body_of_created created]
  refine ⟨fun operations => ?_, fun earlier later => ⟨left earlier, ?_, ?_⟩,
    fun other operation apart body => other.perform_withBody body apart⟩
  · rw [hasBody, left, bodyBehind]
    by_cases gone : ∃ operation ∈ operations, operation.HandsOut
    · rw [if_pos gone]
      rcases gone with ⟨operation, member, handsOut⟩
      simp only [Option.isSome_none, Bool.false_eq_true, false_iff]
      exact fun kept => kept.2 operation member handsOut
    · rw [if_neg gone]
      exact (and_iff_left fun operation member handsOut => gone ⟨operation, member, handsOut⟩).symm
  · rw [reply_performAll, perform, takeBody, left]
  · rcases exists_reading (request.performAll earlier).1 with ⟨outcome, answer, reading⟩
    rw [left] at reading
    exact ⟨outcome, by rw [reply_performAll, answer], reading⟩

/-- A request whose body breaks off behind its first piece. -/
def brokenUpload : RawRequest where
  method := "POST"
  body := some { pieces := [[0x68, 0x69]], failure := some "body failed" }

/-- The first reading, behind an operation of another kind, gets the failure; then nothing is left,
also not of the piece that came before it. -/
theorem body_is_handed_out_once_brokenUpload :
    ∃ request, create brokenUpload {} = .ok request ∧
      (request.performAll [.setPath "/files"]).1.hasBody = true ∧
      (request.performAll [.setPath "/files", .readBody]).1.hasBody = false ∧
      (request.performAll [.setPath "/files", .readBody, .takeBody, .readBody]).2[1]? =
        some (.body (.error "body failed")) ∧
      (request.performAll [.setPath "/files", .readBody, .takeBody, .readBody]).2[2]? =
        some (.truth false) ∧
      (request.performAll [.setPath "/files", .readBody, .takeBody, .readBody]).2[3]? =
        some (.body (.ok [])) := by
  have succeeds : (create brokenUpload {}).toOption.any (fun _ => true) = true := by
    decide +kernel
  rcases exists_create_of_any succeeds with ⟨request, created, _⟩
  rcases body_is_handed_out_once brokenUpload {} request created with ⟨present, answers, _⟩
  refine ⟨request, created, ?_, ?_, ?_, ?_, ?_⟩
  · exact (present [.setPath "/files"]).mpr ⟨rfl, by decide⟩
  · rw [← Bool.not_eq_true, present]
    exact fun kept => kept.2 .readBody (by decide) (.inr rfl)
  · rcases (answers [.setPath "/files"] [.takeBody, .readBody]).2.2 with ⟨_, answer, reading⟩
    cases reading
    exact answer
  · exact (answers [.setPath "/files", .readBody] [.readBody]).2.1
  · rcases (answers [.setPath "/files", .readBody, .takeBody] []).2.2 with ⟨_, answer, reading⟩
    cases reading
    exact answer

end Request

end HttpExchange
