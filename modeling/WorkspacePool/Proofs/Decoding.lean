import Mathlib.Logic.Relation
import WorkspacePool.Codec
import WorkspacePool.Proofs.Json.Members
import WorkspacePool.Proofs.Json.Texts

/-!
What the decoded event depends on: the members that an event and its payload know, each given at
most once, and nothing else of the body. The order of the members, the white space between the
tokens and members of other names leave no trace, whatever those hold.
-/

namespace WorkspacePool

open Json
open Json.Fields
open Json.Token (Spells IsBlank)

variable {key : Quoted} {value first second : Value} {event : Event} {payload : Payload}
  {members front back : List (Quoted × Value)} {body : List UInt8}

/-! ### Records, read off their members -/

namespace Payload

/-- The texts of the fields, in the order of their names. -/
def texts (payload : Payload) : List String :=
  [payload.projectId, payload.userId, payload.gitRepoUrl, payload.sessionId, payload.githubToken,
    payload.targetBranch]

structure IsReadFrom (payload : Payload) (members : List (Quoted × Value)) : Prop where
  legible : Legible members
  fields : List.Forall₂
    (fun name text => Reads (optional "" Decoder.string) (given name members) text)
    fieldNames payload.texts

theorem decode_object_eq_some_iff :
    decode (.object members) = some payload ↔ payload.IsReadFrom members := by
  constructor
  · intro decoded
    simp only [decode, Option.bind_eq_bind, Option.bind_eq_some_iff,
      collect_object_eq_some_iff] at decoded
    obtain ⟨slots, ⟨legible, found⟩, decoded⟩ := decoded
    simp only [fieldNames, List.forall₂_cons_left_iff, List.forall₂_nil_left_iff] at found
    obtain ⟨_, _, project, ⟨_, _, user, ⟨_, _, repository, ⟨_, _, session, ⟨_, _, token,
      ⟨_, _, branch, rfl, rfl⟩, rfl⟩, rfl⟩, rfl⟩, rfl⟩, rfl⟩ := found
    simp only [Option.bind_eq_some_iff, Option.some.injEq] at decoded
    obtain ⟨_, projectRead, _, userRead, _, repositoryRead, _, sessionRead, _, tokenRead, _,
      branchRead, rfl⟩ := decoded
    exact ⟨legible, .cons ⟨_, project, projectRead⟩ <| .cons ⟨_, user, userRead⟩ <|
      .cons ⟨_, repository, repositoryRead⟩ <| .cons ⟨_, session, sessionRead⟩ <|
      .cons ⟨_, token, tokenRead⟩ <| .cons ⟨_, branch, branchRead⟩ .nil⟩
  · intro read
    have fields := read.fields
    simp only [fieldNames, texts, List.forall₂_cons, List.forall₂_nil_left_iff] at fields
    obtain ⟨⟨_, project, projectRead⟩, ⟨_, user, userRead⟩, ⟨_, repository, repositoryRead⟩,
      ⟨_, session, sessionRead⟩, ⟨_, token, tokenRead⟩, ⟨_, branch, branchRead⟩, -⟩ := fields
    have found : collect fieldNames (.object members) = some [_, _, _, _, _, _] :=
      collect_object_eq_some_iff.mpr ⟨read.legible, .cons project <| .cons user <|
        .cons repository <| .cons session <| .cons token <| .cons branch .nil⟩
    simp [decode, found, projectRead, userRead, repositoryRead, sessionRead, tokenRead, branchRead]

end Payload

namespace Event

structure IsReadFrom (event : Event) (members : List (Quoted × Value)) : Prop where
  legible : Legible members
  kind : Reads (required Wire.decode) (given "event_type" members) event.kind
  timestamp : Reads (optional .epoch Wire.decode) (given "timestamp" members) event.timestamp
  payload : Reads (optional .blank Wire.decode) (given "payload" members) event.payload

theorem decode_object_eq_some_iff :
    decode (.object members) = some event ↔ event.IsReadFrom members := by
  constructor
  · intro decoded
    simp only [decode, Option.bind_eq_bind, Option.bind_eq_some_iff,
      collect_object_eq_some_iff] at decoded
    obtain ⟨slots, ⟨legible, found⟩, decoded⟩ := decoded
    simp only [fieldNames, List.forall₂_cons_left_iff, List.forall₂_nil_left_iff] at found
    obtain ⟨kind, _, kindFound, ⟨time, _, timeFound, ⟨load, _, loadFound, rfl, rfl⟩, rfl⟩, rfl⟩ :=
      found
    simp only [Option.bind_eq_some_iff, Option.some.injEq] at decoded
    obtain ⟨_, kindRead, _, timeRead, _, loadRead, rfl⟩ := decoded
    exact ⟨legible, ⟨kind, kindFound, kindRead⟩, ⟨time, timeFound, timeRead⟩,
      ⟨load, loadFound, loadRead⟩⟩
  · intro read
    obtain ⟨kind, kindFound, kindRead⟩ := read.kind
    obtain ⟨time, timeFound, timeRead⟩ := read.timestamp
    obtain ⟨load, loadFound, loadRead⟩ := read.payload
    have found : collect fieldNames (.object members) = some [kind, time, load] :=
      collect_object_eq_some_iff.mpr ⟨read.legible,
        .cons kindFound (.cons timeFound (.cons loadFound .nil))⟩
    simp [decode, found, kindRead, timeRead, loadRead]

/-- The payload may be given in any other way that says the same. -/
theorem IsReadFrom.replace (read : event.IsReadFrom (front ++ (key, first) :: back))
    (named : Quoted.text? key = some "payload")
    (same : Payload.decode second = Payload.decode first) :
    event.IsReadFrom (front ++ (key, second) :: back) := by
  have others {name : String} (other : name ≠ "payload") :
      given name (front ++ (key, second) :: back) = given name (front ++ (key, first) :: back) := by
    have differs : Quoted.text? key ≠ some name := by
      rw [named]
      exact fun same => other (Option.some.inj same).symm
    rw [given_append, given_append, given_cons, given_cons, if_neg differs, if_neg differs]
  refine ⟨?_, ?_, ?_, ?_⟩
  · simpa [Legible, or_imp, forall_and] using read.legible
  · rw [others (by decide)]
    exact read.kind
  · rw [others (by decide)]
    exact read.timestamp
  · obtain ⟨slot, found, loadRead⟩ := read.payload
    rw [given_append, given_cons, if_pos named] at found ⊢
    obtain ⟨none, alone, rfl⟩ := append_cons_eq_toList_iff.mp found
    exact ⟨some second, append_cons_eq_toList_iff.mpr ⟨none, alone, rfl⟩, same.trans loadRead⟩

theorem decode_replace (named : Quoted.text? key = some "payload")
    (same : Payload.decode second = Payload.decode first) :
    decode (.object (front ++ (key, second) :: back)) =
      decode (.object (front ++ (key, first) :: back)) := by
  apply Option.ext
  intro event
  rw [decode_object_eq_some_iff, decode_object_eq_some_iff]
  exact ⟨fun read => read.replace named same.symm, fun read => read.replace named same⟩

/-! ### Other ways to write an event -/

/-- The members of an event, or of its payload, in another order or with a foreign one more. -/
inductive Rewritten : (before after : Value) → Prop
  | members {before after : List (Quoted × Value)}
      (rearranged : Rearranged fieldNames before after) :
      Rewritten (.object before) (.object after)
  | payload {front back before after : List (Quoted × Value)} {key : Quoted}
      (named : Quoted.text? key = some "payload")
      (rearranged : Rearranged Payload.fieldNames before after) :
      Rewritten (.object (front ++ (key, .object before) :: back))
        (.object (front ++ (key, .object after) :: back))

theorem Rewritten.decode {before after : Value} (rewritten : Rewritten before after) :
    Event.decode after = Event.decode before := by
  cases rewritten with
  | members rearranged => simp only [Event.decode, rearranged.collect]
  | payload named rearranged =>
      apply decode_replace named
      simp only [Payload.decode, rearranged.collect]

/-- An event, or its payload, gives one of the members that it knows twice. -/
inductive Repeats : Value → Prop
  | members {members : List (Quoted × Value)} (repeated : Repeated fieldNames members) :
      Repeats (.object members)
  | payload {front back members : List (Quoted × Value)} {key : Quoted}
      (named : Quoted.text? key = some "payload")
      (repeated : Repeated Payload.fieldNames members) :
      Repeats (.object (front ++ (key, .object members) :: back))

theorem Repeats.decode (repeats : Repeats value) : Event.decode value = none := by
  cases repeats with
  | members repeated =>
      rw [Event.decode, repeated.collect]
      rfl
  | @payload front back members key named repeated =>
      rw [Option.eq_none_iff_forall_ne_some]
      intro event decoded
      obtain ⟨slot, found, read⟩ := (decode_object_eq_some_iff.mp decoded).payload
      rw [given_append, given_cons, if_pos named] at found
      obtain ⟨-, -, rfl⟩ := append_cons_eq_toList_iff.mp found
      have spoilt : Payload.decode (.object members) = none := by
        rw [Payload.decode, repeated.collect]
        rfl
      cases spoilt.symm.trans read

/-- What is not given is at its default, and the kind is given. -/
structure FillsIn (event : Event) (members : List (Quoted × Value)) : Prop where
  kind : given "event_type" members ≠ []
  timestamp : given "timestamp" members = [] → event.timestamp = .epoch
  payload : given "payload" members = [] → event.payload = .blank
  payloadField : ∀ inner, given "payload" members = [.object inner] →
    ∀ field ∈ Payload.fieldNames.zip event.payload.texts, given field.1 inner = [] → field.2 = ""

end Event

theorem Event.IsReadFrom.fillsIn (read : event.IsReadFrom members) : event.FillsIn members where
  kind nothing := by cases read.kind.missing nothing
  timestamp nothing := (Option.some.inj (read.timestamp.missing nothing)).symm
  payload nothing := (Option.some.inj (read.payload.missing nothing)).symm
  payloadField inner single field listed nothing := by
    obtain ⟨slot, found, loaded⟩ := read.payload
    have only := (List.nil_append _).trans (single.symm.trans found)
    obtain ⟨-, -, rfl⟩ := append_cons_eq_toList_iff.mp only
    have fields := (Payload.decode_object_eq_some_iff.mp loaded).fields
    have one := (List.forall₂_iff_zip.mp fields).2 listed
    exact (Option.some.inj (one.missing nothing)).symm

/-! ### Bodies -/

theorem ofBytes_of_spells (spells : Spells body value.tokens) :
    Wire.ofBytes Event body = Event.decode value := by
  rw [Wire.ofBytes, Value.ofBytes_eq_some_iff.mpr spells]
  rfl

theorem decode_of_rewritten {before after : Value}
    (rewritten : Relation.ReflTransGen Event.Rewritten before after) :
    Event.decode after = Event.decode before := by
  induction rewritten with
  | refl => rfl
  | tail _ last ih => exact last.decode.trans ih

/-- What an event is read as. A body is a text of the value that it is read as, and of no other. If
that is an object, the event is read from the members that it knows, and the payload from those
that the payload knows. So the event stays as it is when members are reordered or foreign ones are
put in, at either level and any number of times, and when white space is put between two tokens. A
known member that is given twice spoils it, the kind has to be given, and whatever else is not given
is at its default. -/
theorem decoding_goes_by_known_members :
    (∀ body value, Value.ofBytes body = some value ↔ Spells body value.tokens) ∧
    (∀ body members event, Spells body (Value.object members).tokens →
      (Wire.ofBytes Event body = some event ↔ event.IsReadFrom members)) ∧
    (∀ members payload,
      Payload.decode (.object members) = some payload ↔ payload.IsReadFrom members) ∧
    (∀ body rewritten before after, Spells body (Value.tokens before) →
      Spells rewritten (Value.tokens after) → Relation.ReflTransGen Event.Rewritten before after →
        Wire.ofBytes Event rewritten = Wire.ofBytes Event body) ∧
    (∀ front blank back earlier later value, Spells front earlier → Spells back later →
      earlier ++ later = Value.tokens value → IsBlank blank →
        Wire.ofBytes Event (front ++ (blank ++ back)) = Wire.ofBytes Event (front ++ back)) ∧
    (∀ body value, Spells body (Value.tokens value) → Event.Repeats value →
      Wire.ofBytes Event body = none) ∧
    ∀ body members event, Spells body (Value.object members).tokens →
      Wire.ofBytes Event body = some event → event.FillsIn members := by
  have law : ∀ body members event, Spells body (Value.object members).tokens →
      (Wire.ofBytes Event body = some event ↔ event.IsReadFrom members) := by
    intro body members event spells
    rw [ofBytes_of_spells spells]
    exact Event.decode_object_eq_some_iff
  refine ⟨fun _ _ => Value.ofBytes_eq_some_iff, law,
    fun _ _ => Payload.decode_object_eq_some_iff, ?_, ?_, ?_, ?_⟩
  · intro body rewritten before after spells further steps
    rw [ofBytes_of_spells spells, ofBytes_of_spells further]
    exact decode_of_rewritten steps
  · intro front blank back earlier later value first second whole space
    have close := first.append second
    have apart := first.append (second.blank space)
    rw [whole] at close apart
    rw [ofBytes_of_spells close, ofBytes_of_spells apart]
  · intro body value spells repeats
    rw [ofBytes_of_spells spells]
    exact repeats.decode
  · intro body members event spells decoded
    exact ((law body members event spells).mp decoded).fillsIn

/-- An escaped name, a number beyond any range, a lone surrogate and an unknown member change
nothing. -/
example :
    Wire.ofBytes Event ("\x7b\"x\": [1e999, \x7b\"y\": \"\\ud800\"\x7d]," ++
        " \"event\\u005ftype\" : \"CREATE_REQUESTED\"\x7d").toUTF8.data.toList =
      some ⟨.createRequested, .epoch, .blank⟩ := by
  decide +kernel

end WorkspacePool
