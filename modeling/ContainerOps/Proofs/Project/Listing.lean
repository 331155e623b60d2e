import ContainerOps.Project.Operation
import ContainerOps.Proofs.Json.Sequence
import ContainerOps.Proofs.Text.Encoding

/-!
# The two forms of a container listing

Since version 2.21.0 compose prints the containers of a project one per line, and before that in
one array.  From the same documents both forms are read as the same containers, or both are refused
for the first document that is no container; only the text that the error keeps is another.

Main results:

- `valueLines_of_spaced`: the lines of a stream are its documents.
- `SameListing.eq_of_refused`: the first document that is refused decides both readings.
- `same_readings`: the two forms come to the same for every reader of documents.
- `same_listContainers`: so they do for the containers of a project.
-/

namespace ContainerOps.Project

open ContainerOps.Command ContainerOps.Decoding ContainerOps.Text
open ContainerOps.Json (Outline)
open ContainerOps.Json.Reader

/-! ## Documents of a listing -/

/-- A document that can stand on a line of a stream and in an array: a JSON text on one line,
without blanks around it and nested at most 126 levels deep. -/
structure IsListed (doc : String) : Prop where
  /-- The text is JSON. -/
  isJson : (Json.parse? doc).isSome = true
  /-- It is on one line. -/
  oneLine : '\n' ∉ doc.toList
  /-- No blanks are around it. -/
  isTrimmed : IsTrimmed doc.toList
  /-- The array that it is to stand in takes the last level. -/
  depth_le : (document doc).outline.depth ≤ 126

/-- A listed document is nested in an array. -/
theorem IsListed.isNested {doc : String} (hdoc : IsListed doc) : IsNested 126 doc := by
  refine ⟨?_, hdoc.depth_le⟩
  have hjson := hdoc.isJson
  rw [Json.parse?] at hjson
  split at hjson
  · assumption
  · cases hjson

/-- A listed document is not empty. -/
theorem IsListed.ne_empty {doc : String} (hdoc : IsListed doc) : doc ≠ "" := by
  rintro rfl
  exact absurd hdoc.isJson (by decide)

variable {α : Type} {read : Outline → Except Fault α} {subject : Subject} {docs : List String}
  {stream array : String}

/-- Reading a whole JSON text is reading its outline. -/
theorem read_of_ended {d : Json.Document} (hended : d.ended = true) :
    d.read read = read d.outline := by
  rw [Json.Document.read, hended]
  cases read d.outline <;> rfl

/-- Turning the value of a part into another turns the value of the whole text. -/
theorem read_map {β : Type} (d : Json.Document) (f : α → β) :
    d.read (fun outline => (read outline).map f) = (d.read read).map f := by
  simp only [Json.Document.read]
  cases read d.outline with
  | error fault => rfl
  | ok a =>
    simp only [Except.map]
    split <;> rfl

/-- Turning the value of a reading into another does not make it fail. -/
theorem isOk_map {ε β γ : Type} (r : Except ε β) (f : β → γ) : (r.map f).isOk = r.isOk := by
  cases r <;> rfl

/-! ## Agreement -/

/-- The readings of a stream and of an array come to the same: what the documents are read as, in
their order, or the fault of the first document that is refused.  The error on the stream keeps
that document and the error on the array keeps the whole text. -/
inductive SameListing (read : Outline → Except Fault α) (subject : Subject) (docs : List String)
    (array : String) : Except Error (List α) → Except Error (List α) → Prop where
  | listed {as : List α} (hdocs : (docs.map fun doc => (document doc).read read) = as.map .ok) :
      SameListing read subject docs array (.ok as) (.ok as)
  | refused {before after : List String} {doc : String} {fault : Fault}
      (hdocs : docs = before ++ doc :: after)
      (hbefore : ∀ d ∈ before, ((document d).read read).isOk = true)
      (hdoc : (document doc).read read = .error fault) :
      SameListing read subject docs array (.error (.listing subject doc fault))
        (.error (.listing subject array fault))

/-- Two readings that come to the same do so after each value is turned into another. -/
theorem SameListing.map {β : Type} {a b : Except Error (List α)}
    (h : SameListing read subject docs array a b) (f : α → β) :
    SameListing (fun outline => (read outline).map f) subject docs array (a.map (·.map f))
      (b.map (·.map f)) := by
  cases h with
  | listed hdocs =>
    refine .listed ?_
    simp only [read_map]
    have hmap := congrArg (List.map (Except.map f)) hdocs
    rw [List.map_map, List.map_map] at hmap
    rw [List.map_map]
    exact hmap
  | refused hdocs hbefore hdoc =>
    refine .refused hdocs ?_ (by rw [read_map, hdoc]; rfl)
    intro d hd
    rw [read_map, isOk_map]
    exact hbefore d hd

/-- Two readings that come to the same do so with one more document in front that is read. -/
theorem SameListing.cons {doc : String} {a : α} {r r' : Except Error (List α)}
    (hdoc : (document doc).read read = .ok a) (h : SameListing read subject docs array r r') :
    SameListing read subject (doc :: docs) array (r.map (a :: ·)) (r'.map (a :: ·)) := by
  cases h with
  | listed hdocs => exact .listed (by rw [List.map_cons, List.map_cons, hdoc, hdocs])
  | @refused before after refusedDoc fault hdocs hbefore hrefused =>
    have hdocs : doc :: docs = (doc :: before) ++ refusedDoc :: after := congrArg (doc :: ·) hdocs
    refine .refused hdocs ?_ hrefused
    intro d hd
    rcases List.mem_cons.mp hd with rfl | hd
    · rw [hdoc]
      rfl
    · exact hbefore d hd

/-- The first document that is refused, by what is in front of it. -/
theorem find?_refused {before after : List String} {doc : String} {fault : Fault}
    (hdocs : docs = before ++ doc :: after)
    (hbefore : ∀ d ∈ before, ((document d).read read).isOk = true)
    (hdoc : (document doc).read read = .error fault) :
    docs.find? (fun d => !((document d).read read).isOk) = some doc := by
  rw [List.find?_eq_some_iff_append]
  refine ⟨by rw [hdoc]; rfl, before, after, hdocs, ?_⟩
  intro d hd
  rw [hbefore d hd]
  rfl

/-- The outcome is decided by the first document that is refused. -/
theorem SameListing.eq_of_refused {before after : List String} {doc : String} {fault : Fault}
    {r r' : Except Error (List α)} (h : SameListing read subject docs array r r')
    (hdocs : docs = before ++ doc :: after)
    (hbefore : ∀ d ∈ before, ((document d).read read).isOk = true)
    (hdoc : (document doc).read read = .error fault) :
    r = .error (.listing subject doc fault) ∧ r' = .error (.listing subject array fault) := by
  have hfirst := find?_refused hdocs hbefore hdoc
  cases h with
  | listed hall =>
    have hmem : (document doc).read read ∈ docs.map fun doc => (document doc).read read :=
      List.mem_map.mpr ⟨doc, by simp [hdocs], rfl⟩
    rw [hall, hdoc] at hmem
    obtain ⟨a, -, ha⟩ := List.mem_map.mp hmem
    cases ha
  | refused hdocs' hbefore' hdoc' =>
    rw [find?_refused hdocs' hbefore' hdoc', Option.some.injEq] at hfirst
    subst hfirst
    rw [hdoc] at hdoc'
    cases hdoc'
    exact ⟨rfl, rfl⟩

/-! ## The two readings -/

/-- The lines of a stream of documents are the documents. -/
theorem valueLines_of_spaced (hstream : Spaced isBlank "\n" docs stream)
    (hdocs : ∀ doc ∈ docs, IsListed doc) : valueLines stream = docs :=
  hstream.solidPieces_eq rfl fun doc hdoc =>
    ⟨(hdocs doc hdoc).isTrimmed, (hdocs doc hdoc).ne_empty, (hdocs doc hdoc).oneLine⟩

/-- Documents that are read one after another come to the same as the items of an array. -/
theorem same_parseLines (hdocs : ∀ doc ∈ docs, (document doc).ended = true) (array : String) :
    SameListing read subject docs array (parseLines subject read docs)
      ((readItems read (docs.map fun doc => .ok (document doc).outline)).mapError
        (.listing subject array)) := by
  induction docs with
  | nil => exact .listed rfl
  | cons doc docs ih =>
    obtain ⟨hended, hrest⟩ := List.forall_mem_cons.mp hdocs
    have hdoc : (document doc).read read = read (document doc).outline := read_of_ended hended
    simp only [parseLines, parseDocument, List.map_cons, readItems, hdoc]
    cases hread : read (document doc).outline with
    | error fault =>
      have hdocs : doc :: docs = [] ++ doc :: docs := rfl
      exact .refused hdocs (fun d hd => absurd hd List.not_mem_nil) (hdoc.trans hread)
    | ok a =>
      have hcons := (ih hrest).cons (hdoc.trans hread)
      simp only [Except.mapError]
      cases hitems : readItems read (docs.map fun doc => .ok (document doc).outline) with
      | error fault =>
        rw [hitems] at hcons
        exact hcons
      | ok as =>
        rw [hitems] at hcons
        exact hcons

/-- A stream of documents is read to the same as an array of them. -/
theorem same_readings (hdocs : ∀ doc ∈ docs, IsListed doc)
    (hstream : Spaced isBlank "\n" docs stream) (harray : IsArrayOf docs array) :
    SameListing read subject docs array (parseStream subject read stream)
      (parseDocument subject (readArray read) array) := by
  have hdocument := document_array harray fun doc hdoc => (hdocs doc hdoc).isNested
  have hitems : (Outline.array (docs.map fun doc => (document doc).outline) true).items =
      .ok (docs.map fun doc => .ok (document doc).outline) := by
    simp [Json.Outline.items, Json.Outline.parts]
  rw [parseStream, valueLines_of_spaced hstream hdocs, parseDocument,
    read_of_ended (by rw [hdocument]), hdocument, readArray, hitems]
  exact same_parseLines (fun doc hdoc => (hdocs doc hdoc).isNested.ended) array

/-! ## Listings of a project -/

/-- The outcome of a program that succeeded and wrote a text to its output. -/
def printed (text : String) (stderr : List UInt8) : Outcome :=
  .ok { code := 0, stdout := Utf8.encode text, stderr := stderr }

/-- What a program that succeeded printed is the text of its listing. -/
@[simp]
theorem listed_printed (request : Request) (text : String) (stderr : List UInt8) :
    listed request (printed text stderr) = .ok text := by
  simp [listed, succeeded, printed, Output.success, Utf8.text_encode, Except.mapError]

/-- Containers that are printed one per line, for a version since 2.21.0, and containers that are
printed in an array, for a version before it, come to the same: as they are listed, and with their
joined members taken apart. -/
theorem same_listContainers {p q : Project} (hp : p.version.atLeast 2 21 0 = true)
    (hq : q.version.atLeast 2 21 0 = false) (hdocs : ∀ doc ∈ docs, IsListed doc)
    (hstream : Spaced isBlank "\n" docs stream) (harray : IsArrayOf docs array)
    (pErrors qErrors : List UInt8) :
    ∃ subject : Subject, subject.subcommand = "ps" ∧
      SameListing RawContainer.read subject docs array
        (p.listContainersRaw.conclude (printed stream pErrors))
        (q.listContainersRaw.conclude (printed array qErrors)) ∧
      SameListing (fun outline => (RawContainer.read outline).map Container.ofRaw) subject docs
        array (p.listContainers.conclude (printed stream pErrors))
        (q.listContainers.conclude (printed array qErrors)) := by
  have hraw : SameListing RawContainer.read .containers docs array
      (p.listContainersRaw.conclude (printed stream pErrors))
      (q.listContainersRaw.conclude (printed array qErrors)) := by
    simp only [listContainersRaw, listed_printed, readContainers, hp, hq, if_true]
    exact same_readings hdocs hstream harray
  exact ⟨.containers, rfl, hraw, hraw.map Container.ofRaw⟩

/-- Of three documents the second is no container: the stream is refused for its line, the array as
a whole, and for the same fault. -/
theorem same_listContainers_of_number :
    let project (version : Version) : Project :=
      { binary := "docker", directory := "/srv", name := none, envFiles := [], profiles := [],
        version := version, checkMode := false, environment := .empty }
    let array := "[\x7b\"Name\":\"a\"\x7d, 7,\n\x7b\"Name\":\"b\"\x7d]\n"
    ∃ subject fault, Subject.subcommand subject = "ps" ∧
      (project (.of 2 21 0)).listContainersRaw.conclude
          (printed "\x7b\"Name\":\"a\"\x7d\r\n\n  7 \n\x7b\"Name\":\"b\"\x7d" []) =
        .error (.listing subject "7" fault) ∧
      (project (.of 2 20 3)).listContainersRaw.conclude (printed array []) =
        .error (.listing subject array fault) := by
  intro project array
  have hdocs : ∀ doc ∈ ["\x7b\"Name\":\"a\"\x7d", "7", "\x7b\"Name\":\"b\"\x7d"],
      IsListed doc := by
    simp only [List.forall_mem_cons, List.not_mem_nil, false_implies, implies_true, and_true]
    exact ⟨⟨by decide +kernel, by decide, by decide, by decide +kernel⟩,
      ⟨by decide +kernel, by decide, by decide, by decide +kernel⟩,
      ⟨by decide +kernel, by decide, by decide, by decide +kernel⟩⟩
  have hstream : Spaced isBlank "\n"
      ["\x7b\"Name\":\"a\"\x7d", "7", "\x7b\"Name\":\"b\"\x7d"]
      ("" ++ "\x7b\"Name\":\"a\"\x7d" ++ "\r" ++ "\n" ++
        ("\n  " ++ "7" ++ " " ++ "\n" ++ ("" ++ "\x7b\"Name\":\"b\"\x7d" ++ ""))) :=
    .more (by decide) (by decide) (by decide)
      (.more (by decide) (by decide) (by decide) (.last (by decide) (by decide)))
  have hitems : Spaced isSpace ","
      ["\x7b\"Name\":\"a\"\x7d", "7", "\x7b\"Name\":\"b\"\x7d"]
      ("" ++ "\x7b\"Name\":\"a\"\x7d" ++ "" ++ "," ++
        (" " ++ "7" ++ "" ++ "," ++ ("\n" ++ "\x7b\"Name\":\"b\"\x7d" ++ ""))) :=
    .more (by decide) (by decide) (by decide)
      (.more (by decide) (by decide) (by decide) (.last (by decide) (by decide)))
  have harray : IsArrayOf ["\x7b\"Name\":\"a\"\x7d", "7", "\x7b\"Name\":\"b\"\x7d"] array :=
    ⟨"", _, "\n", by decide, by decide, hitems, rfl⟩
  obtain ⟨subject, hsubject, hraw, -⟩ :=
    same_listContainers (p := project (.of 2 21 0)) (q := project (.of 2 20 3)) (by decide)
      (by decide) hdocs hstream harray [] []
  have hsplit : ["\x7b\"Name\":\"a\"\x7d", "7", "\x7b\"Name\":\"b\"\x7d"] =
      ["\x7b\"Name\":\"a\"\x7d"] ++ "7" :: ["\x7b\"Name\":\"b\"\x7d"] := rfl
  have hfirst : ∀ d ∈ ["\x7b\"Name\":\"a\"\x7d"],
      ((document d).read RawContainer.read).isOk = true := by
    simp only [List.forall_mem_singleton]
    decide +kernel
  have hrefused := hraw.eq_of_refused hsplit hfirst rfl
  exact ⟨subject, _, hsubject, hrefused.1, hrefused.2⟩

end ContainerOps.Project
