import Mathlib.Logic.Function.Basic

/-!
# A mailbox under a lock

One writer and one reader share a record of cells. The writer stores a record cell by cell under a
lock, releases it, and notifies the reader; the reader, once notified, loads the cells one by one
under the lock. Either side may be delayed between any two of its steps.

The record that was stored last is not part of the state. `Consistent` says what the cells and the
buffer of the reader have to do with it; `storedBy` and `loadedBy` are the steps at which a record
counts as stored and as loaded. A loaded record is always the one that was stored last, and a reader
that rests without a notification has loaded it.
-/

namespace Roadcast.Mailbox

variable {ι : Type*}

/-- Who holds the lock. -/
inductive Side
  | writer | reader
  deriving DecidableEq, Repr

/-- Where the writer is. It holds the lock while it stores. -/
inductive Writer (V : ι → Type*)
  | idle
  | waiting (record : ∀ i, V i)
  | storing (record : ∀ i, V i) (left : List ι)
  | stored

/-- Where the reader is. It holds the lock while it loads. -/
inductive Reader (V : ι → Type*)
  | idle
  | waiting (buffer : ∀ i, V i)
  | loading (buffer : ∀ i, V i) (left : List ι)
  | loaded (record : ∀ i, V i)

/-- The cells, the lock, the notification, and where both sides are. -/
structure State (V : ι → Type*) where
  cells : ∀ i, V i
  lock : Option Side
  notified : Bool
  writer : Writer V
  reader : Reader V

/-- What may happen next: the writer begins to store a record or goes on, the reader begins with
whatever is in its buffer, goes on, or is done with what it has loaded. -/
inductive Action (V : ι → Type*)
  | store (record : ∀ i, V i)
  | writer
  | wake (buffer : ∀ i, V i)
  | reader
  | done

variable {V : ι → Type*}

/-- A mailbox that holds a record, with both sides at rest. -/
def init (record : ∀ i, V i) : State V := ⟨record, none, false, .idle, .idle⟩

variable [DecidableEq ι]

/-- The next step of the writer, which stores the cells in a given order. -/
def writerStep (order : List ι) (state : State V) : State V :=
  match state.writer with
  | .idle => state
  | .waiting record =>
    if state.lock = none then
      { state with lock := some .writer, writer := .storing record order }
    else state
  | .storing record (i :: left) =>
    { state with cells := Function.update state.cells i (record i), writer := .storing record left }
  | .storing _ [] => { state with lock := none, writer := .stored }
  | .stored => { state with notified := true, writer := .idle }

/-- The next step of the reader, which loads the cells in a given order. -/
def readerStep (order : List ι) (state : State V) : State V :=
  match state.reader with
  | .idle => state
  | .waiting buffer =>
    if state.lock = none then
      { state with lock := some .reader, reader := .loading buffer order }
    else state
  | .loading buffer (i :: left) =>
    { state with reader := .loading (Function.update buffer i (state.cells i)) left }
  | .loading buffer [] => { state with lock := none, reader := .loaded buffer }
  | .loaded _ => state

/-- One step. A side that has to wait, or is asked for a step that it cannot take, does nothing. -/
def act (order : List ι) (state : State V) : Action V → State V
  | .store record =>
    match state.writer with
    | .idle => { state with writer := .waiting record }
    | _ => state
  | .writer => writerStep order state
  | .wake buffer =>
    match state.reader with
    | .idle => if state.notified then { state with notified := false, reader := .waiting buffer }
      else state
    | _ => state
  | .reader => readerStep order state
  | .done =>
    match state.reader with
    | .loaded _ => { state with reader := .idle }
    | _ => state

section Sides

variable (order : List ι) (state : State V)

/-- The writer does not move the reader. -/
@[simp] theorem writerStep_reader : (writerStep order state).reader = state.reader := by
  unfold writerStep
  split
  · rfl
  · split
    · rfl
    · rfl
  · rfl
  · rfl
  · rfl

/-- The reader does not move the writer. -/
@[simp] theorem readerStep_writer : (readerStep order state).writer = state.writer := by
  unfold readerStep
  split
  · rfl
  · split
    · rfl
    · rfl
  · rfl
  · rfl
  · rfl

/-- Waking the reader does not move the writer. -/
@[simp] theorem act_wake_writer (buffer : ∀ i, V i) :
    (act order state (.wake buffer)).writer = state.writer := by
  simp only [act]
  split
  · split
    · rfl
    · rfl
  · rfl

/-- The end of the reader's work does not move the writer. -/
@[simp] theorem act_done_writer : (act order state .done).writer = state.writer := by
  simp only [act]
  split
  · rfl
  · rfl

end Sides

/-- The record that counts as stored from this step on. -/
def storedBy (state : State V) : Action V → Option (∀ i, V i)
  | .writer =>
    match state.writer with
    | .storing record [] => some record
    | _ => none
  | _ => none

/-- The record that the reader has loaded with this step. -/
def loadedBy (state : State V) : Action V → Option (∀ i, V i)
  | .reader =>
    match state.reader with
    | .loading buffer [] => some buffer
    | _ => none
  | _ => none

/-- The record that the writer has begun to store. -/
def Writer.record : Writer V → Option (∀ i, V i)
  | .waiting record | .storing record _ => some record
  | .idle | .stored => none

omit [DecidableEq ι] in
/-- The last step of storing a record. -/
theorem storedBy_eq_some {state : State V} {record : ∀ i, V i}
    (h : storedBy state .writer = some record) : state.writer = .storing record [] := by
  unfold storedBy at h
  dsimp only at h
  split at h
  · rename_i stored hat
    rw [hat, Option.some.inj h]
  · cases h

/-- The other steps of the writer keep its record. -/
theorem writerStep_record (order : List ι) {state : State V}
    (h : storedBy state .writer = none) :
    (writerStep order state).writer.record = state.writer.record := by
  unfold storedBy at h
  unfold writerStep
  cases hat : state.writer with
  | idle => rw [hat]
  | waiting record =>
    dsimp only
    split
    · rfl
    · rw [hat]
  | storing record left =>
    cases left with
    | nil =>
      rw [hat] at h
      cases h
    | cons i left => rfl
  | stored => rfl

/-- What the cells have to do with the record that was stored last. -/
def WriterConsistent (last : ∀ i, V i) (state : State V) : Prop :=
  match state.writer with
  | .storing record left => state.lock = some .writer ∧ ∀ i, i ∉ left → state.cells i = record i
  | _ => state.lock ≠ some .writer ∧ state.cells = last

/-- What the buffer of the reader has to do with the record that was stored last. -/
def ReaderConsistent (last : ∀ i, V i) (state : State V) : Prop :=
  match state.reader with
  | .loading buffer left => state.lock = some .reader ∧ ∀ i, i ∉ left → buffer i = last i
  | _ => state.lock ≠ some .reader

/-- The invariant of the mailbox. -/
structure Consistent (last : ∀ i, V i) (state : State V) : Prop where
  writer : WriterConsistent last state
  reader : ReaderConsistent last state

omit [DecidableEq ι] in
/-- The mailbox starts with one record, which both sides have. -/
theorem consistent_init (record : ∀ i, V i) : Consistent record (init record) :=
  ⟨⟨by simp [init], rfl⟩, by simp [ReaderConsistent, init]⟩

section Steps

variable {order : List ι} {last : ∀ i, V i} {state state' : State V}

omit [DecidableEq ι] in
/-- A reader without the lock is consistent with any record, and stays so while it does not move. -/
theorem ReaderConsistent.unlocked (h : ReaderConsistent last state)
    (hlock : state.lock ≠ some .reader) (hlock' : state'.lock ≠ some .reader)
    (hreader : state'.reader = state.reader) (last' : ∀ i, V i) : ReaderConsistent last' state' := by
  unfold ReaderConsistent at h ⊢
  rw [hreader]
  cases hat : state.reader with
  | loading buffer left =>
    rw [hat] at h
    exact absurd h.1 hlock
  | idle => exact hlock'
  | waiting buffer => exact hlock'
  | loaded record => exact hlock'

omit [DecidableEq ι] in
/-- A writer without the lock is consistent if the cells hold the last record. -/
theorem WriterConsistent.unlocked (h : WriterConsistent last state)
    (hlock : state.lock ≠ some .writer) : state.cells = last := by
  unfold WriterConsistent at h
  cases hat : state.writer with
  | storing record left =>
    rw [hat] at h
    exact absurd h.1 hlock
  | idle =>
    rw [hat] at h
    exact h.2
  | waiting record =>
    rw [hat] at h
    exact h.2
  | stored =>
    rw [hat] at h
    exact h.2

omit [DecidableEq ι] in
/-- The writer's side is not touched without its lock. -/
theorem WriterConsistent.kept (h : WriterConsistent last state) (hwriter : state'.writer = state.writer)
    (hcells : state'.cells = state.cells) (hlock : state.lock ≠ some .writer)
    (hlock' : state'.lock ≠ some .writer) : WriterConsistent last state' := by
  have hlast := h.unlocked hlock
  unfold WriterConsistent at h ⊢
  rw [hwriter, hcells]
  cases hat : state.writer with
  | storing record left =>
    rw [hat] at h
    exact absurd h.1 hlock
  | idle => exact ⟨hlock', hlast⟩
  | waiting record => exact ⟨hlock', hlast⟩
  | stored => exact ⟨hlock', hlast⟩

/-- A step of the writer: the record counts as stored when the lock is released. -/
theorem Consistent.writerStep (h : Consistent last state) (horder : ∀ i, i ∈ order) :
    Consistent ((storedBy state .writer).getD last) (writerStep order state) := by
  have hwriter := h.writer
  have hreader := h.reader
  unfold Mailbox.writerStep storedBy
  unfold WriterConsistent at hwriter
  cases hat : state.writer with
  | idle => exact h
  | waiting record =>
    by_cases hlock : state.lock = none
    · have hfree : state.lock ≠ some .reader := by simp [hlock]
      simp only [if_pos hlock]
      exact ⟨⟨rfl, fun i hi => absurd (horder i) hi⟩, hreader.unlocked hfree (by simp) (by rfl) _⟩
    · simp only [if_neg hlock]
      exact h
  | storing record left =>
    rw [hat] at hwriter
    obtain ⟨hlock, hcells⟩ := hwriter
    have hfree : state.lock ≠ some .reader := by simp [hlock]
    cases left with
    | nil =>
      refine ⟨⟨by simp, funext fun i => hcells i (by simp)⟩, ?_⟩
      exact hreader.unlocked hfree (by simp) (by rfl) _
    | cons i left =>
      refine ⟨⟨hlock, fun k hk => ?_⟩, hreader.unlocked hfree hfree rfl _⟩
      by_cases hki : k = i
      · subst hki
        exact Function.update_self ..
      · simp only [Function.update_of_ne hki]
        exact hcells k (by simp [hki, hk])
  | stored =>
    rw [hat] at hwriter
    exact ⟨hwriter, hreader⟩

/-- A step of the reader: what it has loaded when it releases the lock is the last record. -/
theorem Consistent.readerStep (h : Consistent last state) (horder : ∀ i, i ∈ order) :
    Consistent last (readerStep order state) ∧
      ∀ record, loadedBy state .reader = some record → record = last := by
  have hwriter := h.writer
  have hreader := h.reader
  unfold Mailbox.readerStep loadedBy
  unfold ReaderConsistent at hreader
  cases hat : state.reader with
  | idle => exact ⟨h, by simp⟩
  | waiting buffer =>
    by_cases hlock : state.lock = none
    · simp only [if_pos hlock]
      refine ⟨⟨?_, rfl, fun i hi => absurd (horder i) hi⟩, by simp⟩
      exact hwriter.kept rfl rfl (by simp [hlock]) (by simp)
    · simp only [if_neg hlock]
      exact ⟨h, by simp⟩
  | loading buffer left =>
    rw [hat] at hreader
    obtain ⟨hlock, hbuffer⟩ := hreader
    have hcells := hwriter.unlocked (by simp [hlock])
    cases left with
    | nil =>
      refine ⟨⟨hwriter.kept rfl rfl (by simp [hlock]) (by simp), by simp [ReaderConsistent]⟩, ?_⟩
      intro record hrecord
      obtain rfl := Option.some.inj hrecord
      exact funext fun i => hbuffer i (by simp)
    | cons i left =>
      refine ⟨⟨hwriter.kept rfl rfl (by simp [hlock]) (by simp [hlock]), hlock, fun k hk => ?_⟩,
        by simp⟩
      by_cases hki : k = i
      · subst hki
        rw [Function.update_self, hcells]
      · rw [Function.update_of_ne hki]
        exact hbuffer k (by simp [hki, hk])
  | loaded record => exact ⟨h, by simp⟩

/-- However the steps of both sides are interleaved, a loaded record is the last one stored. -/
theorem Consistent.acted (h : Consistent last state) (horder : ∀ i, i ∈ order) (action : Action V) :
    Consistent ((storedBy state action).getD last) (act order state action) ∧
      ∀ record, loadedBy state action = some record → record = last := by
  have hwriter := h.writer
  have hreader := h.reader
  cases action with
  | store record =>
    refine ⟨?_, by simp [loadedBy]⟩
    unfold WriterConsistent at hwriter
    unfold Mailbox.act
    cases hat : state.writer with
    | idle =>
      rw [hat] at hwriter
      exact ⟨hwriter, hreader⟩
    | waiting other => exact h
    | storing other left => exact h
    | stored => exact h
  | writer => exact ⟨h.writerStep horder, by simp [loadedBy]⟩
  | wake buffer =>
    refine ⟨?_, by simp [loadedBy]⟩
    unfold ReaderConsistent at hreader
    unfold Mailbox.act
    cases hat : state.reader with
    | idle =>
      rw [hat] at hreader
      by_cases hnotified : state.notified = true
      · simp only [if_pos hnotified]
        exact ⟨hwriter, hreader⟩
      · simp only [if_neg hnotified]
        exact h
    | waiting other => exact h
    | loading other left => exact h
    | loaded other => exact h
  | reader => exact h.readerStep horder
  | done =>
    refine ⟨?_, by simp [loadedBy]⟩
    unfold ReaderConsistent at hreader
    unfold Mailbox.act
    cases hat : state.reader with
    | loaded record =>
      rw [hat] at hreader
      exact ⟨hwriter, hreader⟩
    | idle => exact h
    | waiting other => exact h
    | loading other left => exact h

end Steps

/-! ## Notifications -/

/-- The reader will load again: it is notified, will be, or has begun. -/
def Due (state : State V) : Prop :=
  state.notified = true ∨ (∃ buffer, state.reader = .waiting buffer) ∨
    (∃ buffer left, state.reader = .loading buffer left) ∨ state.writer = .stored

section Notifications

variable {order : List ι} {last seen : ∀ i, V i} {state : State V}

/-- A pending notification is not lost by the writer. -/
theorem writerStep_due (h : Due state) : Due (writerStep order state) := by
  have hkept {state' : State V} (hnotified : state'.notified = state.notified)
      (hreader : state'.reader = state.reader) (hwriter : state.writer ≠ .stored) : Due state' := by
    unfold Due at h ⊢
    rw [hnotified, hreader]
    rcases h with h | h | h | h
    · exact Or.inl h
    · exact Or.inr (Or.inl h)
    · exact Or.inr (Or.inr (Or.inl h))
    · exact absurd h hwriter
  unfold writerStep
  cases hat : state.writer with
  | idle => exact h
  | waiting record =>
    dsimp only
    split
    · exact hkept rfl rfl (by simp [hat])
    · exact h
  | storing record left =>
    cases left with
    | nil => exact Or.inr (Or.inr (Or.inr rfl))
    | cons i left => exact hkept rfl rfl (by simp [hat])
  | stored => exact Or.inl rfl

/-- No notification is lost: if the reader will not load again, then it has seen the last record. -/
theorem Consistent.noneLost (h : Consistent last state) (horder : ∀ i, i ∈ order)
    (hseen : ¬ Due state → seen = last) (action : Action V) (hrest : ¬ Due (act order state action)) :
    (loadedBy state action).getD seen = (storedBy state action).getD last := by
  cases action with
  | store record =>
    refine hseen fun hdue => hrest ?_
    unfold Mailbox.act
    cases hat : state.writer with
    | idle =>
      rcases hdue with hdue | hdue | hdue | hdue
      · exact Or.inl hdue
      · exact Or.inr (Or.inl hdue)
      · exact Or.inr (Or.inr (Or.inl hdue))
      · exact absurd (hat.symm.trans hdue) (by simp)
    | waiting other => exact hdue
    | storing other left => exact hdue
    | stored => exact hdue
  | writer =>
    have hstored : storedBy state .writer = none := by
      unfold storedBy
      dsimp only
      split
      · rename_i record hat
        refine absurd ?_ hrest
        rw [Mailbox.act, Mailbox.writerStep, hat]
        exact Or.inr (Or.inr (Or.inr rfl))
      · rfl
    rw [hstored]
    exact hseen fun hdue => hrest (writerStep_due hdue)
  | wake buffer =>
    refine hseen fun hdue => hrest ?_
    unfold Mailbox.act
    cases hat : state.reader with
    | idle =>
      dsimp only
      split
      · exact Or.inr (Or.inl ⟨buffer, rfl⟩)
      · exact hdue
    | waiting other => exact hdue
    | loading other left => exact hdue
    | loaded other => exact hdue
  | reader =>
    have hloaded := (h.readerStep horder).2
    rw [Mailbox.act, Mailbox.readerStep] at hrest
    unfold loadedBy at hloaded ⊢
    cases hat : state.reader with
    | idle =>
      rw [hat] at hrest
      exact hseen hrest
    | waiting buffer =>
      rw [hat] at hrest
      dsimp only at hrest
      split at hrest
      · exact absurd (Or.inr (Or.inr (Or.inl ⟨_, _, rfl⟩))) hrest
      · exact hseen hrest
    | loading buffer left =>
      cases left with
      | nil =>
        rw [hat] at hloaded
        exact hloaded buffer rfl
      | cons i left =>
        rw [hat] at hrest
        exact absurd (Or.inr (Or.inr (Or.inl ⟨_, _, rfl⟩))) hrest
    | loaded record =>
      rw [hat] at hrest
      exact hseen hrest
  | done =>
    refine hseen fun hdue => hrest ?_
    unfold Mailbox.act
    cases hat : state.reader with
    | loaded record =>
      rcases hdue with hdue | ⟨other, hdue⟩ | ⟨other, left, hdue⟩ | hdue
      · exact Or.inl hdue
      · exact absurd (hat.symm.trans hdue) (by simp)
      · exact absurd (hat.symm.trans hdue) (by simp)
      · exact Or.inr (Or.inr (Or.inr hdue))
    | idle => exact hdue
    | waiting other => exact hdue
    | loading other left => exact hdue

end Notifications

end Roadcast.Mailbox
