import WorkspacePool.Proofs.Text.Utf8
import WorkspacePool.Token.Service

/-!
Where users' tokens are looked up. A user's id becomes one segment below `users`, and is read back
from it, unless the id is one or two dots or holds characters that no URL keeps: such ids lose
characters, lose their segment, or lead elsewhere.
-/

namespace WorkspacePool.Url

open Text (utf8)

namespace Percent

/-- What is written in place of a character: the character itself, if it is not reserved, or
escapes. -/
theorem mem_encodeChar {isReserved : Char → Bool} {character written : Char}
    (member : written ∈ encodeChar isReserved character) :
    isReserved written = false ∨ written = '%' ∨ ∃ value < 16, written = digit value := by
  unfold encodeChar at member
  split at member
  · obtain ⟨byte, -, escaped⟩ := List.mem_flatMap.mp member
    have small : byte.toNat < 256 := byte.toNat_lt
    simp only [escape, List.mem_cons, List.not_mem_nil, or_false] at escaped
    rcases escaped with sign | high | low
    · exact .inr (.inl sign)
    · exact .inr (.inr ⟨byte.toNat / 16, by omega, high⟩)
    · exact .inr (.inr ⟨byte.toNat % 16, by omega, low⟩)
  · next plain =>
      obtain rfl := List.mem_singleton.mp member
      simp only [Bool.or_eq_true, not_or, Bool.not_eq_true] at plain
      exact .inl plain.2

/-- A reserved slash is never written. -/
theorem slash_notMem_encode {isReserved : Char → Bool} (slash : isReserved '/' = true)
    (text : List Char) : '/' ∉ encode isReserved text := by
  intro member
  obtain ⟨character, -, written⟩ := List.mem_flatMap.mp member
  rcases mem_encodeChar written with free | sign | ⟨value, small, isDigit⟩
  · simp [slash] at free
  · simp at sign
  · have all : ∀ value ∈ List.range 16, '/' ≠ digit value := by decide
    exact all value (List.mem_range.mpr small) isDigit

end Percent

namespace Path

/-- A dot stands for itself, also where it is written as an escape. -/
theorem decode_of_afterDot? {segment rest : List Char} (dotted : afterDot? segment = some rest) :
    Percent.decode segment = 0x2E :: Percent.decode rest := by
  unfold afterDot? at dotted
  split at dotted
  · cases dotted
    exact Percent.decode_cons (by decide) rest
  · cases dotted
    simp [Percent.decode, Percent.digitValue?]
  · cases dotted
    simp [Percent.decode, Percent.digitValue?]
  · cases dotted

section Encoded

variable {isReserved : Char → Bool} {text : List Char}

theorem isSelf_encode (percent : isReserved '%' = true) (dot : isReserved '.' = false) :
    isSelf (Percent.encode isReserved text) = true ↔ text = ['.'] := by
  constructor
  · intro same
    have dotted : afterDot? (Percent.encode isReserved text) = some [] := eq_of_beq same
    have bytes := decode_of_afterDot? dotted
    rw [Percent.decode_encode percent] at bytes
    exact Text.utf8_injective bytes
  · rintro rfl
    simp [Percent.encode, Percent.encodeChar, dot, Percent.isAlwaysEscaped, Percent.isControl,
      isSelf, afterDot?]

theorem isParent_encode (percent : isReserved '%' = true) (dot : isReserved '.' = false) :
    isParent (Percent.encode isReserved text) = true ↔ text = ['.', '.'] := by
  constructor
  · intro same
    have dotted : (afterDot? (Percent.encode isReserved text)).bind afterDot? = some [] :=
      eq_of_beq same
    obtain ⟨rest, first, second⟩ := Option.bind_eq_some_iff.mp dotted
    have bytes := decode_of_afterDot? first
    rw [Percent.decode_encode percent, decode_of_afterDot? second] at bytes
    exact Text.utf8_injective bytes
  · rintro rfl
    simp [Percent.encode, Percent.encodeChar, dot, Percent.isAlwaysEscaped, Percent.isControl,
      isParent, afterDot?]

end Encoded

/-- The characters of a text that a URL keeps. -/
def kept (text : String) : List Char :=
  text.toList.filter (!isSkipped ·)

theorem kept_eq {text : String} (clean : ∀ character ∈ text.toList, isSkipped character = false) :
    kept text = text.toList :=
  List.filter_eq_self.mpr fun character member => by simp [clean character member]

/-- What putting a text behind a path comes to, told by the characters that are kept. -/
theorem append_eq {isReserved : Char → Bool} (percent : isReserved '%' = true)
    (dot : isReserved '.' = false) (path : List String) (text : String) :
    append isReserved path text =
      if text = "." ∨ text = ".." then path
      else if kept text = ['.', '.'] then (stem path).dropLast ++ [""]
      else if kept text = ['.'] then stem path ++ [""]
      else stem path ++ [String.ofList (Percent.encode isReserved (kept text))] := by
  unfold append
  split
  · rfl
  · simp only [← isParent_encode percent dot, ← isSelf_encode percent dot]
    rfl

theorem stem_eq {path : List String} (inner : path ≠ [""]) : stem path = path :=
  if_neg inner

/-- Nothing below another segment is the root. -/
theorem stem_below (path : List String) (first last : String) :
    stem (path ++ [first, last]) = path ++ [first, last] :=
  stem_eq fun root => by simpa using congrArg List.length root

theorem text_append (first second : List String) :
    text (first ++ second) = text first ++ text second := by
  simp [text]

end Path

namespace SchemeKind

variable (kind : SchemeKind)

theorem reservedInSegment_percent : kind.reservedInSegment '%' = true := by
  cases kind <;> rfl

theorem reservedInSegment_dot : kind.reservedInSegment '.' = false := by
  cases kind <;> rfl

theorem reservedInSegment_slash : kind.reservedInSegment '/' = true := by
  cases kind <;> rfl

theorem append_users (path : List String) :
    Path.append kind.reservedInSegment path "users" = Path.stem path ++ ["users"] := by
  rw [Path.append_eq kind.reservedInSegment_percent kind.reservedInSegment_dot,
    if_neg (by decide), if_neg (by decide), if_neg (by decide)]
  cases kind <;> rfl

theorem append_githubToken (path : List String) :
    Path.append kind.reservedInSegment path "github-token" =
      Path.stem path ++ ["github-token"] := by
  rw [Path.append_eq kind.reservedInSegment_percent kind.reservedInSegment_dot,
    if_neg (by decide), if_neg (by decide), if_neg (by decide)]
  cases kind <;> rfl

end SchemeKind

end WorkspacePool.Url

namespace WorkspacePool.TokenService

open Text (utf8)
open Url.Path (kept stem)

variable (service : TokenService) (userId : String)

/-- The path that everything of the service lies below. -/
def root : List String :=
  stem (Url.Path.dropEmptyEnd service.base.path)

/-- The segment that an id is written as. -/
def segment : String :=
  String.ofList (Url.Percent.encode
    (Url.SchemeKind.ofScheme service.base.scheme).reservedInSegment (kept userId))

/-- An id that a segment can hold as it is. -/
def IsVerbatim (userId : String) : Prop :=
  userId ≠ "." ∧ userId ≠ ".." ∧
    ∀ character ∈ userId.toList, Url.Path.isSkipped character = false

/-- The path of a lookup, told by the characters of the id that are kept. -/
theorem resource_path :
    (service.resource userId).path =
      if userId = "." ∨ userId = ".." then service.root ++ ["users", "github-token"]
      else if kept userId = ['.', '.'] then stem (service.root ++ [""]) ++ ["github-token"]
      else if kept userId = ['.'] then service.root ++ ["users", "", "github-token"]
      else service.root ++ ["users", service.segment userId, "github-token"] := by
  let kind := Url.SchemeKind.ofScheme service.base.scheme
  have users : stem (service.root ++ ["users"]) = service.root ++ ["users"] := by
    refine Url.Path.stem_eq fun isRoot => ?_
    cases below : service.root with
    | nil => simp [below] at isRoot
    | cons first rest => simp [below] at isRoot
  have steps : (service.resource userId).path =
      stem (Url.Path.append kind.reservedInSegment (service.root ++ ["users"]) userId) ++
        ["github-token"] := by
    simp only [resource, Url.Located.extend, List.foldl_cons, List.foldl_nil]
    rw [kind.append_users, kind.append_githubToken]
    rfl
  rw [steps, Url.Path.append_eq kind.reservedInSegment_percent kind.reservedInSegment_dot, users]
  split
  · rw [users, List.append_assoc]
    rfl
  · split
    · rw [List.dropLast_concat]
    · split
      · rw [List.append_assoc, List.cons_append, List.nil_append, Url.Path.stem_below,
          List.append_assoc]
        rfl
      · rw [List.append_assoc, List.cons_append, List.nil_append, Url.Path.stem_below,
          List.append_assoc]
        rfl

section Verbatim

variable {service : TokenService} {userId : String}

theorem decode_segment :
    Url.Percent.decode (service.segment userId).toList = utf8 (kept userId) := by
  rw [segment, String.toList_ofList]
  exact Url.Percent.decode_encode (Url.SchemeKind.reservedInSegment_percent _) _

theorem isVerbatim_kept (other : kept userId ≠ ['.']) (dots : kept userId ≠ ['.', '.']) :
    IsVerbatim (String.ofList (kept userId)) := by
  refine ⟨fun same => other ?_, fun same => dots ?_, fun character member => ?_⟩
  · simpa using congrArg String.toList same
  · simpa using congrArg String.toList same
  · rw [String.toList_ofList] at member
    simpa using (List.mem_filter.mp member).2

theorem kept_kept : kept (String.ofList (kept userId)) = kept userId := by
  simp [kept]

theorem IsVerbatim.kept_eq (verbatim : IsVerbatim userId) : kept userId = userId.toList :=
  Url.Path.kept_eq verbatim.2.2

theorem IsVerbatim.not_dots (verbatim : IsVerbatim userId) :
    kept userId ≠ ['.'] ∧ kept userId ≠ ['.', '.'] := by
  rw [verbatim.kept_eq]
  exact ⟨fun same => verbatim.1 (String.toList_inj.mp same),
    fun same => verbatim.2.1 (String.toList_inj.mp same)⟩

theorem IsVerbatim.path (verbatim : IsVerbatim userId) :
    (service.resource userId).path =
      service.root ++ ["users", service.segment userId, "github-token"] := by
  rw [resource_path, if_neg (not_or.mpr ⟨verbatim.1, verbatim.2.1⟩), if_neg verbatim.not_dots.2,
    if_neg verbatim.not_dots.1]

/-- Only an id that is verbatim is found below `users` in a segment that reads as the id. -/
theorem isVerbatim_of_path {segment : String}
    (path : (service.resource userId).path = service.root ++ ["users", segment, "github-token"])
    (read : Url.Percent.decode segment.toList = utf8 userId.toList) : IsVerbatim userId := by
  rw [resource_path] at path
  split at path
  · simpa using congrArg List.length path
  next notDots =>
  split at path
  · have size := congrArg List.length path
    unfold stem at size
    split at size <;> simp at size
  next notParent =>
  split at path
  next self =>
    simp only [List.append_cancel_left_eq, List.cons.injEq, and_true, true_and] at path
    rw [← path] at read
    have empty : userId.toList = [] :=
      Text.utf8_injective (by simpa [Url.Percent.decode] using read.symm)
    simp [kept, empty] at self
  next =>
    simp only [List.append_cancel_left_eq, List.cons.injEq, and_true, true_and] at path
    rw [← path, decode_segment] at read
    refine ⟨(not_or.mp notDots).1, (not_or.mp notDots).2, fun character member => ?_⟩
    simpa using List.filter_eq_self.mp (Text.utf8_injective read) character member

theorem IsVerbatim.target (verbatim : IsVerbatim userId) :
    (service.resource userId).target =
      Url.Path.text service.root ++ "/users/" ++ service.segment userId ++ "/github-token" ++
        Url.marked "?" service.base.query := by
  have query : (service.resource userId).query = service.base.query := rfl
  rw [Url.Located.target, verbatim.path, Url.Path.text_append, query]
  apply String.toList_inj.mp
  simp [Url.Path.text]

/-- The segment of a verbatim id names nothing but itself. -/
theorem IsVerbatim.segment_plain (verbatim : IsVerbatim userId) :
    '/' ∉ (service.segment userId).toList ∧
      Url.Path.isSelf (service.segment userId).toList = false ∧
      Url.Path.isParent (service.segment userId).toList = false := by
  rw [segment, String.toList_ofList, ← Bool.not_eq_true, ← Bool.not_eq_true,
    Url.Path.isSelf_encode (Url.SchemeKind.reservedInSegment_percent _)
      (Url.SchemeKind.reservedInSegment_dot _),
    Url.Path.isParent_encode (Url.SchemeKind.reservedInSegment_percent _)
      (Url.SchemeKind.reservedInSegment_dot _)]
  exact ⟨Url.Percent.slash_notMem_encode (Url.SchemeKind.reservedInSegment_slash _) _,
    verbatim.not_dots⟩

theorem IsVerbatim.eq_of_target {other : String} (verbatim : IsVerbatim userId)
    (verbatimToo : IsVerbatim other)
    (same : (service.resource userId).target = (service.resource other).target) :
    userId = other := by
  rw [verbatim.target, verbatimToo.target] at same
  have written : service.segment userId = service.segment other := by
    have chars := congrArg String.toList same
    simp only [String.toList_append, List.append_assoc, List.append_cancel_left_eq] at chars
    exact String.toList_inj.mp (List.append_cancel_right chars)
  have bytes : utf8 userId.toList = utf8 other.toList := by
    rw [← verbatim.kept_eq, ← verbatimToo.kept_eq, ← @decode_segment service,
      written, decode_segment]
  exact String.toList_inj.mp (Text.utf8_injective bytes)

/-- Where an id is looked up that need not be verbatim. -/
theorem resource_cases (service : TokenService) (userId : String) :
    (userId = "." ∨ userId = "..") ∧
        (service.resource userId).path = service.root ++ ["users", "github-token"] ∨
      kept userId = ['.', '.'] ∧
        (service.resource userId).path = stem (service.root ++ [""]) ++ ["github-token"] ∨
      kept userId = ['.'] ∧
        (service.resource userId).path = service.root ++ ["users", "", "github-token"] ∨
      ∃ shorter, IsVerbatim shorter ∧ kept userId = shorter.toList ∧
        service.resource userId = service.resource shorter := by
  by_cases dots : userId = "." ∨ userId = ".."
  · exact .inl ⟨dots, by rw [resource_path, if_pos dots]⟩
  by_cases parent : kept userId = ['.', '.']
  · exact .inr (.inl ⟨parent, by rw [resource_path, if_neg dots, if_pos parent]⟩)
  by_cases self : kept userId = ['.']
  · exact .inr (.inr (.inl ⟨self, by
      rw [resource_path, if_neg dots, if_neg parent, if_pos self]⟩))
  refine .inr (.inr (.inr ⟨String.ofList (kept userId), isVerbatim_kept self parent,
    String.toList_ofList.symm, ?_⟩))
  have same : (service.resource userId).path =
      (service.resource (String.ofList (kept userId))).path := by
    rw [(isVerbatim_kept self parent).path, resource_path, if_neg dots, if_neg parent,
      if_neg self, segment, segment, kept_kept]
  exact congrArg (fun path => { service.base with path }) same

end Verbatim

/-- A lookup goes where the service's URL points, but for the path. The path is that of the service
with `users`, a segment and `github-token` behind it, the segment being one that reads as the id,
exactly when the id is verbatim. The segment of such an id holds no slash and is no dots, so that
the lookup stays below `users`, and two such ids are looked up at one place only if they are the
same. Any other id is left out, leads to the place above or to one without a name, or is looked up
at the place of a shorter id. -/
theorem verbatim_ids_have_own_place (service : TokenService) (userId : String) :
    service.resource userId = { service.base with path := (service.resource userId).path } ∧
    (IsVerbatim userId ↔ ∃ segment,
      (service.resource userId).path = service.root ++ ["users", segment, "github-token"] ∧
        Url.Percent.decode segment.toList = userId.toUTF8.data.toList) ∧
    (IsVerbatim userId → ∃ segment,
      (service.resource userId).target = Url.Path.text service.root ++ "/users/" ++ segment ++
        "/github-token" ++ Url.marked "?" service.base.query ∧
      '/' ∉ segment.toList ∧ Url.Path.isSelf segment.toList = false ∧
        Url.Path.isParent segment.toList = false) ∧
    (∀ other, IsVerbatim userId → IsVerbatim other →
      (service.resource userId).target = (service.resource other).target → userId = other) ∧
    (¬ IsVerbatim userId →
      (userId = "." ∨ userId = "..") ∧
          (service.resource userId).path = service.root ++ ["users", "github-token"] ∨
        kept userId = ['.', '.'] ∧
          (service.resource userId).path = stem (service.root ++ [""]) ++ ["github-token"] ∨
        kept userId = ['.'] ∧
          (service.resource userId).path = service.root ++ ["users", "", "github-token"] ∨
        ∃ shorter, IsVerbatim shorter ∧ kept userId = shorter.toList ∧
          service.resource userId = service.resource shorter) := by
  refine ⟨rfl, ⟨?_, ?_⟩, ?_, fun other => IsVerbatim.eq_of_target, fun _ =>
    resource_cases service userId⟩
  · intro verbatim
    refine ⟨service.segment userId, verbatim.path, ?_⟩
    rw [decode_segment, verbatim.kept_eq, Text.bytes_eq_utf8]
  · rintro ⟨segment, path, read⟩
    exact isVerbatim_of_path path (read.trans (Text.bytes_eq_utf8 userId))
  · intro verbatim
    exact ⟨service.segment userId, verbatim.target, verbatim.segment_plain⟩

/-- A tab in front of two dots is dropped, and what is left leads out of `users`. -/
theorem user_id_can_leave_users :
    ∃ service, ofText "http://host/api" = .ok service ∧
      (service.resource "\t..").target = "/api//github-token" ∧
      ¬ ∃ segment,
        (service.resource "\t..").path = service.root ++ ["users", segment, "github-token"] ∧
          Url.Percent.decode segment.toList = "\t..".toUTF8.data.toList := by
  refine ⟨⟨⟨"http", ⟨"", "", some (.domain "host"), none⟩, ["api"], none, none⟩⟩, ?_, ?_, ?_⟩
  · decide +kernel
  · decide +kernel
  · rintro ⟨segment, path, read⟩
    have verbatim := isVerbatim_of_path path (read.trans (Text.bytes_eq_utf8 _))
    exact absurd (verbatim.2.2 '\t' (by decide)) (by decide)

end WorkspacePool.TokenService
