import Mathlib.Data.List.Basic
import Mathlib.Data.List.DropRight

/-!
# Settings read from lines

A stream is read line by line into a buffer of bounded size, each line is
trimmed, and some lines make a setting that must not be made twice.  The lemmas
say which streams such a reader accepts.
-/

namespace Lines

variable {α : Type*}

/-! ## Lines -/

section Reading

/-- A line that was read, what follows it, and whether the end of the stream was
met. -/
structure Read (α : Type*) where
  chars : List α
  rest : List α
  atEnd : Bool

/-- Read through the end of the line, but no more than there is room for. -/
def read (stop : α → Bool) : (room : Nat) → (stream : List α) → Read α
  | 0, stream => ⟨[], stream, false⟩
  | _ + 1, [] => ⟨[], [], true⟩
  | room + 1, c :: stream =>
      if stop c then
        ⟨[c], stream, false⟩
      else
        let next := read stop room stream
        { next with chars := c :: next.chars }

/-- A read takes a whole line, or all that is left of the stream, or as much as
there is room for. -/
inductive Reads (stop : α → Bool) (room : Nat) : List α → Read α → Prop
  | line
      {body rest : List α} {last : α}
      (plain : ∀ c ∈ body, stop c = false)
      (stops : stop last = true)
      (fits : body.length < room) :
      Reads stop room (body ++ last :: rest) ⟨body ++ [last], rest, false⟩
  | last
      {stream : List α}
      (plain : ∀ c ∈ stream, stop c = false)
      (fits : stream.length < room) :
      Reads stop room stream ⟨stream, [], true⟩
  | full
      {front rest : List α}
      (plain : ∀ c ∈ front, stop c = false)
      (size : front.length = room) :
      Reads stop room (front ++ rest) ⟨front, rest, false⟩

/-- A character that does not end the line is read before the others. -/
theorem Reads.cons
    {stop : α → Bool} {room : Nat} {stream : List α} {next : Read α} {c : α}
    (reads : Reads stop room stream next) (goes : stop c = false) :
    Reads stop (room + 1) (c :: stream)
      { next with chars := c :: next.chars } := by
  cases reads with
  | line plain stops fits =>
      exact .line (List.forall_mem_cons.mpr ⟨goes, plain⟩) stops
        (Nat.succ_lt_succ fits)
  | last plain fits =>
      exact .last (List.forall_mem_cons.mpr ⟨goes, plain⟩)
        (Nat.succ_lt_succ fits)
  | full plain size =>
      exact .full (List.forall_mem_cons.mpr ⟨goes, plain⟩)
        (congrArg Nat.succ size)

theorem reads_read (stop : α → Bool) (room : Nat) (stream : List α) :
    Reads stop room stream (read stop room stream) := by
  induction stream generalizing room with
  | nil =>
      cases room with
      | zero => exact @Reads.full _ stop 0 [] [] (by simp) rfl
      | succ room => exact .last (by simp) (Nat.succ_pos room)
  | cons c stream inductionHypothesis =>
      cases room with
      | zero => exact @Reads.full _ stop 0 [] _ (by simp) rfl
      | succ room =>
          cases stops : stop c with
          | true =>
              simp only [read, stops, if_true]
              exact @Reads.line _ stop _ [] stream c (by simp) stops
                (Nat.succ_pos room)
          | false =>
              simp only [read, stops, Bool.false_eq_true, if_false]
              exact (inductionHypothesis room).cons stops

end Reading

/-! ## Trimming -/

section Trimming

variable {blank : α → Bool}

/-- Delete the blanks at both ends. -/
def trim (blank : α → Bool) (text : List α) : List α :=
  (text.dropWhile blank).rdropWhile blank

/-- A text without blanks at its ends. -/
def Trimmed (blank : α → Bool) (text : List α) : Prop :=
  text.dropWhile blank = text ∧ text.rdropWhile blank = text

theorem rdropWhile_append (text trail : List α) :
    (text ++ trail).rdropWhile blank =
      if trail.rdropWhile blank = [] then
        text.rdropWhile blank
      else
        text ++ trail.rdropWhile blank := by
  simp only [List.rdropWhile, List.reverse_append, List.dropWhile_append,
    List.isEmpty_iff, List.reverse_eq_nil_iff]
  split <;> simp

theorem rdropWhile_append_of_blank {text trail : List α}
    (blanks : ∀ c ∈ trail, blank c = true) :
    (text ++ trail).rdropWhile blank = text.rdropWhile blank := by
  rw [rdropWhile_append, if_pos (List.rdropWhile_eq_nil_iff.mpr blanks)]

/-- Behind a text that does not end with a blank, blanks are dropped at the end
only. -/
theorem rdropWhile_append_of_trimmed {text : List α}
    (trimmed : text.rdropWhile blank = text) (trail : List α) :
    (text ++ trail).rdropWhile blank = text ++ trail.rdropWhile blank := by
  rw [rdropWhile_append]
  split
  next dropped => rw [trimmed, dropped, List.append_nil]
  next => rfl

/-- Blanks around a text do not matter. -/
theorem trim_surrounded {lead trail : List α}
    (before : ∀ c ∈ lead, blank c = true)
    (behind : ∀ c ∈ trail, blank c = true) (text : List α) :
    trim blank (lead ++ text ++ trail) = trim blank text := by
  rw [trim, trim, List.append_assoc, List.dropWhile_append_of_pos before,
    List.dropWhile_append]
  split
  next empty =>
    rw [List.isEmpty_iff] at empty
    rw [empty, List.dropWhile_eq_nil_iff.mpr behind]
  next => exact rdropWhile_append_of_blank behind

theorem trim_of_trimmed {text : List α} (trimmed : Trimmed blank text) :
    trim blank text = text := by
  rw [trim, trimmed.1, trimmed.2]

/-- What does not start with a blank still does not when blanks are dropped at
its end. -/
theorem dropWhile_rdropWhile {text : List α}
    (starts : text.dropWhile blank = text) :
    (text.rdropWhile blank).dropWhile blank = text.rdropWhile blank := by
  rw [List.dropWhile_eq_self_iff] at starts ⊢
  intro some
  have front := List.rdropWhile_prefix blank text
  have inText := some.trans_le front.length_le
  rw [front.getElem some]
  exact starts inText

theorem trimmed_trim (text : List α) : Trimmed blank (trim blank text) :=
  ⟨dropWhile_rdropWhile (List.dropWhile_idempotent blank text),
    List.rdropWhile_idempotent blank _⟩

/-- A text is its trimmed part between blanks. -/
theorem trim_eq_iff {text core : List α} :
    trim blank text = core ↔
      Trimmed blank core ∧
        ∃ lead trail, text = lead ++ core ++ trail ∧
          (∀ c ∈ lead, blank c = true) ∧ ∀ c ∈ trail, blank c = true := by
  constructor
  · rintro rfl
    refine ⟨trimmed_trim text, text.takeWhile blank,
      (text.dropWhile blank).rtakeWhile blank, ?_,
      fun c member => List.mem_takeWhile_imp member,
      fun c member => List.mem_rtakeWhile_imp member⟩
    rw [trim, List.append_assoc, List.rdropWhile_append_rtakeWhile,
      List.takeWhile_append_dropWhile]
  · rintro ⟨trimmed, lead, trail, rfl, before, behind⟩
    rw [trim_surrounded before behind, trim_of_trimmed trimmed]

/-- Only the end of a text behind a word is trimmed. -/
theorem trim_append_of_trimmed {word : List α} (trimmed : Trimmed blank word)
    (present : word ≠ []) (text : List α) :
    trim blank (word ++ text) = word ++ text.rdropWhile blank := by
  have starts : (word ++ text).dropWhile blank = word ++ text := by
    rw [List.dropWhile_append, trimmed.1, if_neg (by simpa using present)]
  rw [trim, starts, rdropWhile_append_of_trimmed trimmed.2]

theorem trim_rdropWhile (text : List α) :
    trim blank (text.rdropWhile blank) = trim blank text := by
  have surrounded := @trim_surrounded _ blank [] (text.rtakeWhile blank)
    (by simp) (fun _ member => List.mem_rtakeWhile_imp member)
    (text.rdropWhile blank)
  rwa [List.nil_append, List.rdropWhile_append_rtakeWhile, eq_comm]
    at surrounded

end Trimming

/-! ## Settings -/

section Settings

variable {ε τ β : Type*} {reads : ε → Option τ} {parse : τ → Option β}

/-- An entry that makes the setting gives it its value, unless the setting was
made before. -/
def settle (reads : ε → Option τ) (parse : τ → Option β) (slot : Option β)
    (entry : ε) : Option (Option β) :=
  match reads entry with
  | none => some slot
  | some text =>
      match slot with
      | some _ => none
      | none => (parse text).map some

theorem settle_of_idle {slot : Option β} {entry : ε}
    (idle : reads entry = none) :
    settle reads parse slot entry = some slot := by
  rw [settle, idle]

theorem settle_of_made {slot slot' : Option β} {entry : ε} {text : τ}
    (made : reads entry = some text) :
    settle reads parse slot entry = some slot' ↔
      slot = none ∧ ∃ value, parse text = some value ∧ slot' = some value := by
  rw [settle, made]
  cases slot with
  | none => simp [Option.map_eq_some_iff, eq_comm]
  | some => simp

/-- Just one of the entries makes the setting, with a text of this meaning. -/
def Declares (makes : ε → τ → Prop) (meaning : τ → β → Prop)
    (entries : List ε) (value : β) : Prop :=
  ∃ front entry rest text, entries = front ++ entry :: rest ∧
    makes entry text ∧ meaning text value ∧
    ∀ other ∈ front ++ rest, ∀ text, ¬makes other text

theorem declares_cons_of_not
    {makes : ε → τ → Prop} {meaning : τ → β → Prop} {entry : ε}
    {entries : List ε} {value : β} (idle : ∀ text, ¬makes entry text) :
    Declares makes meaning (entry :: entries) value ↔
      Declares makes meaning entries value := by
  constructor
  · rintro ⟨front, other, rest, text, split, made, meant, others⟩
    cases front with
    | nil =>
        obtain ⟨rfl, -⟩ := List.cons.inj split
        exact absurd made (idle text)
    | cons first front =>
        obtain ⟨-, rfl⟩ := List.cons.inj split
        exact ⟨front, other, rest, text, rfl, made, meant,
          (List.forall_mem_cons.mp others).2⟩
  · rintro ⟨front, other, rest, text, rfl, made, meant, others⟩
    exact ⟨entry :: front, other, rest, text, rfl, made, meant,
      List.forall_mem_cons.mpr ⟨idle, others⟩⟩

theorem declares_cons_of_makes
    {makes : ε → τ → Prop} {meaning : τ → β → Prop} {entry : ε}
    {entries : List ε} {text : τ} {value : β} (made : makes entry text)
    (only : ∀ other, makes entry other → other = text) :
    Declares makes meaning (entry :: entries) value ↔
      meaning text value ∧ ∀ other ∈ entries, ∀ text, ¬makes other text := by
  constructor
  · rintro ⟨front, other, rest, word, split, makes, meant, others⟩
    cases front with
    | nil =>
        obtain ⟨rfl, rfl⟩ := List.cons.inj split
        obtain rfl := only word makes
        exact ⟨meant, others⟩
    | cons first front =>
        obtain ⟨rfl, -⟩ := List.cons.inj split
        exact absurd made ((List.forall_mem_cons.mp others).1 text)
  · rintro ⟨meant, others⟩
    exact ⟨[], entry, entries, text, rfl, made, meant, others⟩

/-- A setting that was made remains if no entry makes it again. -/
theorem foldlM_settle_some {entries : List ε} {value : β} {slot : Option β} :
    entries.foldlM (settle reads parse) (some value) = some slot ↔
      (∀ entry ∈ entries, reads entry = none) ∧ slot = some value := by
  induction entries with
  | nil => simp [eq_comm]
  | cons entry entries inductionHypothesis =>
      rw [List.foldlM_cons, List.forall_mem_cons, settle]
      cases made : reads entry with
      | none => simpa using inductionHypothesis
      | some text => simp

/-- A setting gets its value from the one entry that makes it. -/
theorem foldlM_settle_none
    {makes : ε → τ → Prop} {meaning : τ → β → Prop} {entries : List ε}
    {value : β}
    (made : ∀ entry ∈ entries, ∀ text,
      reads entry = some text ↔ makes entry text)
    (meant : ∀ text value, parse text = some value ↔ meaning text value) :
    entries.foldlM (settle reads parse) none = some (some value) ↔
      Declares makes meaning entries value := by
  induction entries with
  | nil =>
      refine iff_of_false (by simp) ?_
      rintro ⟨front, entry, rest, text, split, -⟩
      simp at split
  | cons entry entries inductionHypothesis =>
      rw [List.forall_mem_cons] at made
      obtain ⟨here, later⟩ := made
      rw [List.foldlM_cons, settle]
      cases read : reads entry with
      | none =>
          have idle : ∀ text, ¬makes entry text := by
            intro text
            rw [← here, read]
            simp
          rw [declares_cons_of_not idle, ← inductionHypothesis later]
          rfl
      | some text =>
          have only : ∀ other, makes entry other → other = text := by
            intro other
            rw [← here, read]
            exact fun same => (Option.some.inj same).symm
          have others :
              (∀ other ∈ entries, ∀ text, ¬makes other text) ↔
                ∀ other ∈ entries, reads other = none := by
            refine forall₂_congr fun other member => ?_
            simp only [← later other member, Option.eq_none_iff_forall_ne_some]
          rw [declares_cons_of_makes ((here text).mp read) only, others,
            ← meant]
          cases parsed : parse text with
          | none => simp [parsed]
          | some found =>
              simp only [parsed, Option.map_some, Option.bind_eq_bind,
                Option.bind_some]
              rw [foldlM_settle_some, and_comm]
              simp [eq_comm]

end Settings

end Lines
