import ContainerOps.Proofs.Progress.Step
import Mathlib.Data.List.SplitBy

/-!
# Blocks of progress output

Read without any state, progress output is a sequence of blocks: a line of a known shape and the
lines of no known shape after it.  Each block has its events by itself.  An error takes all other
lines of its block as its message; in any other block the lines from the first one with the mark
of a general error on are the message of such an error.

Main results:

- `Parser.takeAll_push_of_isError`: an error takes all lines of no known shape that follow it.
- `Parser.takeAll_of_pending_none`: without an error they make at most one general error.
- `Parser.events_takeAll_block`: a block adds its events, whatever came before it.
- `events_read_eq_flatMap_blocks`: the events of a text are those of its blocks.
-/

namespace ContainerOps.Progress

open ContainerOps.Text

/-! ## Blocks -/

/-- Entries, cut before every line of a known shape. -/
def blocks (taken : List String) : List (List String) :=
  taken.splitBy fun _ line => classify line = .unmatched

/-- Lines one below the other; none if there is no line. -/
def messageOf? (body : List String) : Option String :=
  if body.isEmpty then none else some (join "\n" body)

/-- The general error that some lines of no known shape make: the first line with its mark and all
lines after that. -/
def generalErrorOf? (body : List String) : Option Event :=
  match body.dropWhile fun line => !startsWith line generalErrorMark with
  | [] => none
  | found => some (generalError (join "\n" found))

/-- The events of a block. -/
def blockEvents : List String → List Event
  | [] => []
  | head :: body =>
    match (classify head).event? with
    | none => (generalErrorOf? (head :: body)).toList
    | some event =>
      if (classify head).fails then [{ event with message := messageOf? body }]
      else event :: (generalErrorOf? body).toList

/-- A relation on neighbours that looks at the second one holds of all but the first. -/
theorem forall_mem_tail_of_isChain {α : Type} {Holds : α → Prop} {items : List α}
    (hchain : items.IsChain fun _ item => Holds item) : ∀ item ∈ items.tail, Holds item := by
  induction items with
  | nil => intro item hitem; cases hitem
  | cons first rest ih =>
    cases rest with
    | nil => intro item hitem; cases hitem
    | cons second rest =>
      rw [List.isChain_cons_cons] at hchain
      intro item hitem
      rcases List.mem_cons.mp hitem with rfl | hrest
      · exact hchain.1
      · exact ih hchain.2 item hrest

/-- Only the first line of a block can have a known shape. -/
theorem unmatched_of_mem_tail {taken block : List String} (hblock : block ∈ blocks taken) :
    ∀ line ∈ block.tail, classify line = .unmatched := by
  have hchain := List.isChain_of_mem_splitBy hblock
  exact forall_mem_tail_of_isChain (hchain.imp fun _ _ h => of_decide_eq_true h)

/-- Every block but the first begins with a line of a known shape. -/
theorem recognised_of_mem_tail {taken block : List String}
    (hblock : block ∈ (blocks taken).tail) :
    ∃ head ∈ block.head?, classify head ≠ .unmatched := by
  have hchain := List.isChain_getLast_head_splitBy
    (fun _ line => decide (classify line = .unmatched)) taken
  have hheads : (blocks taken).IsChain fun _ next =>
      ∃ head ∈ next.head?, classify head ≠ .unmatched := by
    refine hchain.imp fun _ next h => ?_
    obtain ⟨_, hne, hhead⟩ := h
    exact ⟨next.head hne, List.head_mem_head? hne, of_decide_eq_false hhead⟩
  exact forall_mem_tail_of_isChain hheads block hblock

/-! ## Messages -/

/-- Continuing an event line by line appends the lines to its message. -/
theorem foldl_continuedBy (event : Event) (body : List String) :
    body.foldl Event.continuedBy event =
      { event with
        message := match event.message with
          | none => messageOf? body
          | some message => some (join "\n" (message :: body)) } := by
  induction body generalizing event with
  | nil => cases event with | mk kind id status message => cases message <;> rfl
  | cons line rest ih =>
    rw [List.foldl_cons, ih]
    cases event with
    | mk kind id status message =>
      cases message with
      | none => rfl
      | some message =>
        simp only [Event.continuedBy, Event.mk.injEq, true_and, Option.some_inj]
        rw [join_append_cons_left, join_cons_cons]

namespace Parser

/-! ## Blocks in the parser -/

/-- An error takes all lines of no known shape that follow it. -/
theorem takeAll_push_of_isError (p : Parser) {event : Event} (herror : event.isError = true)
    {body : List String} (hbody : ∀ line ∈ body, classify line = .unmatched) :
    (p.push event).takeAll body = p.push (body.foldl Event.continuedBy event) := by
  induction body generalizing event with
  | nil => rfl
  | cons line rest ih =>
    have hpending := pending_push_of_isError p herror
    have htake : ((p.push event).take line).1 = p.push (event.continuedBy line) := by
      rw [take_of_pending (hbody line List.mem_cons_self) hpending]
      simp only [push, modify_concat]
      rfl
    have hrest := fun l hl => hbody l (List.mem_cons_of_mem line hl)
    rw [takeAll_cons, htake, List.foldl_cons]
    exact @ih (event.continuedBy line) herror hrest

/-- Without an error, lines of no known shape make at most one general error. -/
theorem takeAll_of_pending_none {p : Parser} (hpending : p.pending = none) {body : List String}
    (hbody : ∀ line ∈ body, classify line = .unmatched) :
    p.takeAll body = match generalErrorOf? body with
      | none => p
      | some event => p.push event := by
  induction body with
  | nil => rfl
  | cons line rest ih =>
    have hline : classify line = .unmatched := hbody line List.mem_cons_self
    have hrest : ∀ l ∈ rest, classify l = .unmatched :=
      fun l hl => hbody l (List.mem_cons_of_mem line hl)
    unfold generalErrorOf?
    cases hmark : startsWith line generalErrorMark with
    | true =>
      rw [takeAll_cons, take_of_mark hline hpending hmark,
        takeAll_push_of_isError p (isError_generalError line) hrest, foldl_continuedBy]
      simp [hmark, generalError]
    | false =>
      rw [takeAll_cons, take_of_no_mark hline hpending hmark, ih hrest]
      simp [generalErrorOf?, hmark]

/-- The events that lines of no known shape add if no error is pending. -/
theorem events_takeAll_of_pending_none {p : Parser} (hpending : p.pending = none)
    {body : List String} (hbody : ∀ line ∈ body, classify line = .unmatched) :
    (p.takeAll body).events = p.events ++ (generalErrorOf? body).toList := by
  rw [takeAll_of_pending_none hpending hbody]
  cases generalErrorOf? body with
  | none => simp
  | some event => rfl

/-- A block adds its events, whatever came before it. -/
theorem events_takeAll_block (p : Parser) {head : String} {body : List String}
    (hhead : classify head ≠ .unmatched) (hbody : ∀ line ∈ body, classify line = .unmatched) :
    (p.takeAll (head :: body)).events = p.events ++ blockEvents (head :: body) := by
  cases hevent : (classify head).event? with
  | none => exact absurd (Shape.event?_eq_none_iff.mp hevent) hhead
  | some event =>
    have hfails := isError_of_event? hevent
    rw [takeAll_cons, take_of_event? hevent]
    simp only [blockEvents, hevent, ← hfails]
    cases herror : event.isError with
    | true =>
      rw [takeAll_push_of_isError p herror hbody, foldl_continuedBy,
        message_of_event? hevent herror]
      rfl
    | false =>
      rw [events_takeAll_of_pending_none (pending_push_of_not_isError p herror) hbody]
      simp

/-- A sequence of blocks with heads of known shapes adds the events of each in turn. -/
theorem events_takeAll_flatten (p : Parser) {parts : List (List String)}
    (hparts : ∀ block ∈ parts, (∃ head ∈ block.head?, classify head ≠ .unmatched) ∧
      ∀ line ∈ block.tail, classify line = .unmatched) :
    (p.takeAll parts.flatten).events = p.events ++ parts.flatMap blockEvents := by
  induction parts generalizing p with
  | nil => simp
  | cons block rest ih =>
    have hrest := fun b hb => hparts b (List.mem_cons_of_mem block hb)
    obtain ⟨⟨head, hmem, hhead⟩, hbody⟩ := hparts block List.mem_cons_self
    obtain ⟨body, rfl⟩ : ∃ body, block = head :: body := List.head?_eq_some_iff.mp hmem
    rw [List.tail_cons] at hbody
    rw [List.flatten_cons, takeAll_append, ih _ hrest, events_takeAll_block p hhead hbody,
      List.flatMap_cons, List.append_assoc]

/-- From the start, a first block has its events, also without a line of a known shape. -/
theorem events_takeAll_first (dryRun : Bool) {block : List String}
    (hbody : ∀ line ∈ block.tail, classify line = .unmatched) :
    ((start dryRun).takeAll block).events = blockEvents block := by
  cases block with
  | nil => rfl
  | cons head body =>
    rw [List.tail_cons] at hbody
    by_cases hhead : classify head = .unmatched
    · -- nothing is pending at the start, so all of the block is read as a body
      have hall : ∀ line ∈ head :: body, classify line = .unmatched := by
        intro line hline
        rcases List.mem_cons.mp hline with rfl | hline
        · exact hhead
        · exact hbody line hline
      rw [events_takeAll_of_pending_none rfl hall]
      simp [blockEvents, hhead, Shape.event?, start]
    · rw [events_takeAll_block _ hhead hbody]
      rfl

/-- From the start, the events of some entries are those of their blocks. -/
theorem events_takeAll_start (dryRun : Bool) (taken : List String) :
    ((start dryRun).takeAll taken).events = (blocks taken).flatMap blockEvents := by
  have hflatten : (blocks taken).flatten = taken := List.flatten_splitBy _ taken
  cases hblocks : blocks taken with
  | nil =>
    rw [hblocks] at hflatten
    rw [← hflatten]
    rfl
  | cons first rest =>
    have hbodies : ∀ block ∈ first :: rest, ∀ line ∈ block.tail, classify line = .unmatched := by
      rw [← hblocks]
      exact fun block hblock => unmatched_of_mem_tail hblock
    have hheads : ∀ block ∈ rest, ∃ head ∈ block.head?, classify head ≠ .unmatched := by
      intro block hblock
      have htail : block ∈ (blocks taken).tail := by
        rw [hblocks]
        exact hblock
      exact recognised_of_mem_tail htail
    have hfirst := events_takeAll_first dryRun (hbodies first List.mem_cons_self)
    have hrest := fun block hblock =>
      And.intro (hheads block hblock) (hbodies block (List.mem_cons_of_mem first hblock))
    rw [hblocks] at hflatten
    rw [← hflatten, List.flatten_cons, takeAll_append, events_takeAll_flatten _ hrest, hfirst,
      List.flatMap_cons]

end Parser

/-- The events of a text are those of its blocks, each of which is a line of a known shape, which
only the first block can lack, and lines of no known shape. -/
theorem events_read_eq_flatMap_blocks (text : String) (dryRun : Bool) :
    (blocks (entries dryRun (lines text))).flatten = entries dryRun (lines text) ∧
    (∀ block ∈ blocks (entries dryRun (lines text)),
      block ≠ [] ∧ ∀ line ∈ block.tail, classify line = .unmatched) ∧
    (∀ block ∈ (blocks (entries dryRun (lines text))).tail,
      ∃ head ∈ block.head?, classify head ≠ .unmatched) ∧
    (read text dryRun).events =
      (blocks (entries dryRun (lines text))).flatMap blockEvents := by
  refine ⟨List.flatten_splitBy _ _, fun block hblock => ?_, fun block hblock => ?_, ?_⟩
  · exact ⟨List.ne_nil_of_mem_splitBy hblock, unmatched_of_mem_tail hblock⟩
  · exact recognised_of_mem_tail hblock
  · rw [events_read, Parser.events_takeAll_start]

end ContainerOps.Progress
