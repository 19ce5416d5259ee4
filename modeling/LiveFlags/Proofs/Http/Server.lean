import LiveFlags.Http.Polling
import LiveFlags.Proofs.Http.HeaderText

/-!
# Servers that keep to the rules of entity tags

A server serves one document at a time, each under a validator of its own: the entity tag that it comes
with, or the version that it holds, in quotes, if it comes without one. The server answers "not modified"
exactly to a request that names the validator of its document (`Document.Answers`). What a fetcher
keeps has been served with its validator (`Document.Served`), so when the request that names the tag of
what is kept is answered "not modified", what is kept is the document of the server
(`Document.Served.eq_of_tag`).
-/
namespace LiveFlags.Http

/-- A document that a server serves. -/
structure Document where
  /-- The entity tag that it comes with. -/
  entityTag : Option HeaderValue
  /-- The bytes of its text. -/
  body : List UInt8
  deriving DecidableEq

namespace Document

/-- The flags and the version of the document, if it can be read. -/
def set? (document : Document) : Option FlagSet := (readDocument document.body).toOption

/-- The flags of the document, if it can be read. -/
def flags? (document : Document) : Option Flags := document.set?.map (·.flags)

/-- What the document is told apart by. -/
def validator? (document : Document) : Option HeaderValue :=
  document.entityTag.or
    ((document.set?.bind (·.version)).map fun version => Text.Utf8.encode ("\"" ++ version ++ "\""))

/-- What has come of the body is the document, if all of it has come. -/
def Carried (document : Document) : Body → Prop
  | .whole bytes => bytes = document.body
  | .cut _ => True

instance (document : Document) (body : Body) : Decidable (document.Carried body) :=
  match body with
  | .whole bytes => inferInstanceAs (Decidable (bytes = document.body))
  | .cut _ => .isTrue trivial

/-- The answer is one that a server gives that has the document. -/
def Answers (document : Document) (request : Request) (answer : Answer) : Prop :=
  if request.ifNoneMatch.isSome ∧ request.ifNoneMatch = document.validator? then answer.status = 304
  else answer.status = 200 ∧ answer.header? "ETag" = document.entityTag ∧ document.Carried answer.body

/-- The exchange with a server that has the document can end like this. -/
def Reacts (document : Document) (request : Request) : Outcome → Prop
  | .error _ => True
  | .ok answer => document.Answers request answer

instance (document : Document) (request : Request) (answer : Answer) :
    Decidable (document.Answers request answer) := by
  unfold Answers
  infer_instance

instance (document : Document) (request : Request) (outcome : Outcome) :
    Decidable (document.Reacts request outcome) :=
  match outcome with
  | .error _ => .isTrue trivial
  | .ok answer => inferInstanceAs (Decidable (document.Answers request answer))

/-- What is kept has come with the document. -/
def Served (document : Document) (cached : Cached) : Prop :=
  ∃ set, document.set? = some set ∧ cached.entityTag = document.entityTag.bind headerText? ∧
    cached.set = versioned set cached.entityTag

variable {document : Document} {request : Request} {answer : Answer} {cached : Cached}

/-- The flags that are kept are those of the document that they have come with. -/
theorem Served.flags (served : document.Served cached) : document.flags? = some cached.set.flags := by
  obtain ⟨set, read, _, kept⟩ := served
  rw [flags?, read, kept]
  rfl

/-- A tag that is kept is written as the tag that has come. -/
theorem Served.entityTag_eq {tag : String} (served : document.Served cached)
    (tagged : cached.entityTag = some tag) : document.entityTag = some (Text.Utf8.encode tag) := by
  obtain ⟨_, _, kept, _⟩ := served
  rw [tagged] at kept
  obtain ⟨bytes, came, text⟩ := Option.bind_eq_some_iff.mp kept.symm
  rw [came, (encode_of_headerText? text).2]

/-- No two documents have one validator. -/
def Distinct (documents : Document → Prop) : Prop :=
  ∀ document other validator, documents document → documents other →
    document.validator? = some validator → other.validator? = some validator → document = other

/-- Two documents are distinct if requests name them differently. -/
theorem distinct_pair {one two : Document} (differ : one.validator? ≠ two.validator?) :
    Distinct (· ∈ [one, two]) := by
  intro document other validator known known' named named'
  simp only [List.mem_cons, List.not_mem_nil, or_false] at known known'
  rcases known with rfl | rfl <;> rcases known' with rfl | rfl
  · rfl
  · exact absurd (named.trans named'.symm) differ
  · exact absurd (named'.trans named.symm) differ
  · rfl

/-- What is kept with a tag is the document whose validator is the tag. -/
theorem Served.eq_of_tag {documents : Document → Prop} (distinct : Distinct documents) {other : Document}
    {tag : String} (known : documents document) (known' : documents other)
    (served : document.Served cached) (tagged : cached.entityTag = some tag)
    (same : other.validator? = some (Text.Utf8.encode tag)) : other = document := by
  have validator : document.validator? = some (Text.Utf8.encode tag) := by
    rw [validator?, served.entityTag_eq tagged, Option.some_or]
  exact distinct other document _ known' known same validator

/-- An answer with a document brings the document, or nothing. -/
theorem handle_of_modified {pending : Pending} (answers : document.Answers pending.request answer)
    (modified : answer.status ≠ 304) :
    (∃ error, pending.handle (.ok answer) = Pending.refused error) ∨
      ∃ cached, document.Served cached ∧ (pending.handle (.ok answer)).result = .ok cached.set ∧
        (pending.handle (.ok answer)).replacement = some cached := by
  unfold Answers at answers
  split at answers
  · exact absurd answers modified
  · obtain ⟨status, tag, carried⟩ := answers
    have taken : pending.handle (.ok answer) = Pending.accept answer := by
      simp [Pending.handle, status, Answer.isSuccess]
    rw [taken]
    unfold Pending.accept
    cases body : answer.body with
    | whole bytes =>
      rw [body] at carried
      obtain rfl : bytes = document.body := carried
      cases read : readDocument document.body with
      | error problem => exact .inl ⟨.decode problem.message, by simp [read]⟩
      | ok set =>
        refine .inr
          ⟨⟨answer.entityTag?, versioned set answer.entityTag?⟩, ⟨set, ?_, ?_, rfl⟩, ?_, ?_⟩
        · simp [set?, read, Except.toOption]
        · simp [Answer.entityTag?, tag]
        · simp [read]
        · simp [read]
    | cut fault => exact .inl ⟨.request fault, rfl⟩

/-- "Not modified" brings what was captured. -/
theorem handle_of_notModified (pending : Pending) (notModified : answer.status = 304) :
    pending.handle (.ok answer) = pending.reuse := by
  simp [Pending.handle, notModified]

/-- "Not modified" is the answer to the validator of the document. -/
theorem validator_of_notModified (answers : document.Answers request answer)
    (notModified : answer.status = 304) :
    ∃ validator, request.ifNoneMatch = some validator ∧ document.validator? = some validator := by
  unfold Answers at answers
  split at answers
  · rename_i matched
    obtain ⟨validator, named⟩ := Option.isSome_iff_exists.mp matched.1
    exact ⟨validator, named, matched.2.symm.trans named⟩
  · rw [answers.1] at notModified
    contradiction

end Document

end LiveFlags.Http
