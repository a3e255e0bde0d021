import InstanceLifecycle.Store.Contents

/-!
# Two writers of one table

A writer changes one row or inserts one, and then adds a dependent to it. Between the two
writes of one writer there may be those of the other. What both have written is described as
if one of them, the inner one, had always come first: its write moves below the other one's
if their changes commute and none of them is about a row the other one inserts later. When
both are done the contents are the same in every weaving, although two inserted rows may have
exchanged their ids.
-/

namespace Store

variable {υ δ ε ζ : Type}

/-- The first write of a writer: a change of a row, or a new one. -/
inductive Target (υ δ : Type) where
  | change (id : Nat) (update : υ)
  | insert (data : δ)
deriving DecidableEq

/-- The rows of a table with the next number of its sequence, and their dependents. -/
structure Tables (δ ε : Type) where
  rows : Multiset (Row δ)
  next : Nat
  children : Multiset ε

namespace Target

variable (apply : υ → δ → δ)

/-- Change the data of the row with this id. -/
def revise (id : Nat) (update : υ) (row : Row δ) : Row δ :=
  if row.id = id then ⟨row.id, apply update row.data⟩ else row

/-- The rows after the write; an inserted row gets the id. -/
def place (target : Target υ δ) (id : Nat) (rows : Multiset (Row δ)) : Multiset (Row δ) :=
  match target with
  | .change other update => rows.map (revise apply other update)
  | .insert data => rows + {⟨id, data⟩}

/-- How many rows the first write of a strand adds: one where it inserts, none
where it changes a row that is there. -/
def inserted : Target υ δ → Nat
  | .change _ _ => 0
  | .insert _ => 1

/-- The id of the row that a writer finds or makes. -/
def Fits (target : Target υ δ) (id : Nat) (before : Tables δ ε) : Prop :=
  match target with
  | .change other _ => id = other ∧ other < before.next
  | .insert _ => id = before.next

variable {apply}

/-- The writes commute where no row is concerned by both in an order that matters. -/
theorem place_comm {one other : Target υ δ} {left right : Nat} (rows : Multiset (Row δ))
    (changes : ∀ id update later, one = .change id update → other = .change id later →
      ∀ data, apply update (apply later data) = apply later (apply update data))
    (leftOld : ∀ id update data, one = .change id update → other = .insert data → id ≠ right)
    (rightOld : ∀ id update data, other = .change id update → one = .insert data → id ≠ left) :
    one.place apply left (other.place apply right rows) =
      other.place apply right (one.place apply left rows) := by
  cases one with
  | change id update =>
    cases other with
    | change otherId later =>
      simp only [place, Multiset.map_map]
      apply Multiset.map_congr rfl
      rintro ⟨number, data⟩ _
      simp only [Function.comp, revise]
      by_cases first : number = id
      · by_cases second : number = otherId
        · subst first second
          simp [changes number update later rfl rfl data]
        · simp [first, first ▸ second]
      · simp only [if_neg first]
        by_cases second : number = otherId
        · simp [second, second ▸ first]
        · simp [first, second]
    | insert data =>
      have apart : ¬ right = id := fun same => leftOld id update data rfl rfl same.symm
      simp [place, revise, apart]
  | insert data =>
    cases other with
    | change otherId later =>
      have apart : ¬ left = otherId := fun same => rightOld otherId later data rfl rfl same.symm
      simp [place, revise, apart]
    | insert more =>
      simp only [place]
      exact add_right_comm rows _ _

end Target

/-- How far a writer has come, with the id of its row. -/
inductive Strand (υ δ ε : Type) where
  | none
  | placed (target : Target υ δ) (id : Nat)
  | done (target : Target υ δ) (id : Nat) (child : ε)

namespace Strand

/-- The first write of a strand, with the id it went to. -/
def target : Strand υ δ ε → Option (Target υ δ × Nat)
  | .none => Option.none
  | .placed target id => some (target, id)
  | .done target id _ => some (target, id)

/-- The rows with the first write of a strand, if it has come so far. -/
def place (apply : υ → δ → δ) (strand : Strand υ δ ε) (rows : Multiset (Row δ)) :
    Multiset (Row δ) :=
  match strand.target with
  | Option.none => rows
  | some (target, id) => target.place apply id rows

/-- How many rows a strand adds. -/
def inserted (strand : Strand υ δ ε) : Nat :=
  match strand.target with
  | Option.none => 0
  | some (target, _) => target.inserted

/-- The dependents of a strand: one, once it is done. -/
def children : Strand υ δ ε → Multiset ε
  | .done _ _ child => {child}
  | _ => 0

end Strand

/-- The row of a writer is the one it changes, or was inserted since `base`. -/
def Strand.Sound (base now : Tables δ ε) (strand : Strand υ δ ε) : Prop :=
  match strand.target with
  | Option.none => True
  | some (.change other _, id) => id = other ∧ id < now.next
  | some (.insert _, id) => base.next ≤ id ∧ id < now.next

/-- Rows that both have inserted are two rows. -/
def Strand.Apart (inner outer : Strand υ δ ε) : Prop :=
  match inner.target, outer.target with
  | some (.insert _, id), some (.insert _, other) => id ≠ other
  | _, _ => True

/-- What two writers have written since `base`, told as if the inner one had been first. -/
structure Woven (apply : υ → δ → δ) (base : Tables δ ε) (inner outer : Strand υ δ ε)
    (now : Tables δ ε) : Prop where
  rows : now.rows = outer.place apply (inner.place apply base.rows)
  next : now.next = base.next + inner.inserted + outer.inserted
  children : now.children = base.children + inner.children + outer.children
  innerSound : inner.Sound base now
  outerSound : outer.Sound base now
  apart : inner.Apart outer

namespace Tables

/-- The tables after the first write of a writer, the sequence included. -/
def write (apply : υ → δ → δ) (before : Tables δ ε) (target : Target υ δ) (id : Nat) :
    Tables δ ε where
  rows := target.place apply id before.rows
  next := before.next + target.inserted
  children := before.children

/-- The tables after the second, which adds a dependent. -/
def hang (before : Tables δ ε) (child : ε) : Tables δ ε where
  rows := before.rows
  next := before.next
  children := before.children + {child}

end Tables

section Steps

variable {apply : υ → δ → δ} {base now after : Tables δ ε} {inner outer : Strand υ δ ε}
  {target : Target υ δ} {id : Nat} {child : ε}

/-- At the start nothing is woven. -/
theorem woven_refl (base : Tables δ ε) :
    Woven apply base (.none : Strand υ δ ε) .none base := by
  refine ⟨rfl, rfl, ?_, trivial, trivial, trivial⟩
  simp [Strand.children]

/-- A strand stays sound when the sequence moves on. -/
theorem Strand.Sound.mono {strand : Strand υ δ ε} (sound : strand.Sound base now)
    (grows : now.next ≤ after.next) : strand.Sound base after := by
  rw [Strand.Sound] at sound ⊢
  split at sound
  · trivial
  · exact ⟨sound.1, Nat.lt_of_lt_of_le sound.2 grows⟩
  · exact ⟨sound.1, Nat.lt_of_lt_of_le sound.2 grows⟩

/-- A row that is found or made now is sound. -/
theorem Target.Fits.sound (fits : target.Fits id now) (later : base.next ≤ now.next) :
    (Strand.placed target id : Strand υ δ ε).Sound base (now.write apply target id) := by
  cases target with
  | change other update =>
    obtain ⟨rfl, below⟩ := fits
    exact ⟨rfl, Nat.lt_of_lt_of_le below (Nat.le_add_right _ _)⟩
  | insert data =>
    have fresh : id = now.next := fits
    subst fresh
    exact ⟨later, Nat.lt_succ_self _⟩

/-- Weaving never lowers the sequence. -/
theorem Woven.later (woven : Woven apply base inner outer now) : base.next ≤ now.next := by
  rw [woven.next]
  omega

/-- The outer writer writes on top of what the inner one has written. -/
theorem Woven.outer_write (woven : Woven apply base inner .none now) (fits : target.Fits id now) :
    Woven apply base inner (.placed target id) (now.write apply target id) := by
  have grows : now.next ≤ (now.write apply target id).next := Nat.le_add_right _ _
  refine ⟨?_, ?_, ?_, woven.innerSound.mono grows, fits.sound woven.later, ?_⟩
  · exact congrArg (target.place apply id) woven.rows
  · exact congrArg (· + target.inserted) woven.next
  · exact woven.children
  · have sound := woven.innerSound
    rw [Strand.Apart]
    rw [Strand.Sound] at sound
    split
    · rename_i started ended
      cases ended
      have new : id = now.next := fits
      rw [started] at sound
      omega
    · trivial

/-- The inner writer writes below what the outer one has written, as if it had
come first. An insert commutes with whatever the outer one did, and two changes
of one row do by assumption. -/
theorem Woven.inner_write (woven : Woven apply base .none outer now) (fits : target.Fits id now)
    (old : ∀ other update, target = .change other update → other < base.next)
    (changes : ∀ other update later row, target = .change other update →
      outer.target = some (.change other later, row) →
        ∀ data, apply update (apply later data) = apply later (apply update data)) :
    Woven apply base (.placed target id) outer (now.write apply target id) := by
  have grows : now.next ≤ (now.write apply target id).next := Nat.le_add_right _ _
  refine ⟨?_, ?_, ?_, fits.sound woven.later, woven.outerSound.mono grows, ?_⟩
  · refine (congrArg (target.place apply id) woven.rows).trans ?_
    have sound := woven.outerSound
    change target.place apply id (outer.place apply base.rows) =
      outer.place apply (target.place apply id base.rows)
    rw [Strand.Sound] at sound
    rw [Strand.place, Strand.place]
    cases started : outer.target with
    | none => rfl
    | some entry =>
      obtain ⟨later, other⟩ := entry
      rw [started] at sound
      apply Target.place_comm
      · intro row update again left right
        subst right
        exact changes row update again other left started
      · intro row update data left right
        subst right
        have below := old row update left
        have above := sound.1
        omega
      · intro row update data right left
        subst left right
        have new : id = now.next := fits
        have found := sound.1
        have below := sound.2
        omega
  · have next := woven.next
    simp only [Strand.inserted, Strand.target, Tables.write] at next ⊢
    omega
  · exact woven.children
  · have sound := woven.outerSound
    rw [Strand.Apart]
    rw [Strand.Sound] at sound
    split
    · rename_i started ended
      cases started
      have new : id = now.next := fits
      rw [ended] at sound
      omega
    · trivial

/-- The dependent of the inner writer, at any time after its row. -/
theorem Woven.inner_hang (woven : Woven apply base (.placed target id) outer now) :
    Woven apply base (.done target id child) outer (now.hang child) := by
  refine ⟨woven.rows, woven.next, ?_, woven.innerSound, woven.outerSound, woven.apart⟩
  simp only [Tables.hang, woven.children, Strand.children, add_zero]
  exact add_right_comm _ _ _

/-- The dependent of the outer writer, at any time after its row. -/
theorem Woven.outer_hang (woven : Woven apply base inner (.placed target id) now) :
    Woven apply base inner (.done target id child) (now.hang child) := by
  refine ⟨woven.rows, woven.next, ?_, woven.innerSound, woven.outerSound, woven.apart⟩
  simp only [Tables.hang, woven.children, Strand.children, add_zero]

/-- One writer after the other is a weaving, which makes the serial run
comparable. -/
theorem Woven.follow (one : Woven apply base inner .none now) (two : Woven apply now outer .none after) :
    Woven apply base inner outer after := by
  have nextOne : now.next = base.next + inner.inserted := one.next
  have nextTwo : after.next = now.next + outer.inserted := two.next
  have rowsOne : now.rows = inner.place apply base.rows := one.rows
  have rowsTwo : after.rows = outer.place apply now.rows := two.rows
  refine ⟨?_, ?_, ?_, one.innerSound.mono ?_, ?_, ?_⟩
  · rw [rowsTwo, rowsOne]
  · omega
  · have first : now.children = base.children + inner.children :=
      one.children.trans (add_zero _)
    have second : after.children = now.children + outer.children :=
      two.children.trans (add_zero _)
    rw [second, first]
  · omega
  · have sound := two.innerSound
    rw [Strand.Sound] at sound ⊢
    split at sound
    · trivial
    · exact sound
    · exact ⟨Nat.le_trans one.later sound.1, sound.2⟩
  · have early := one.innerSound
    have late := two.innerSound
    rw [Strand.Apart]
    rw [Strand.Sound] at early late
    split
    · rename_i started ended
      rw [started] at early
      rw [ended] at late
      simp only at early late
      omega
    · trivial

end Steps

/-! ## Done -/

/-- Two ends of one writer: nothing written, or the same but for the id of the row. -/
inductive Strand.Alike (key : ε → Nat) (content : ε → ζ) :
    Strand υ δ ε → Strand υ δ ε → Prop where
  | none : Alike key content .none .none
  | done (target : Target υ δ) {id other : Nat} {child twin : ε} (own : key child = id)
      (twinOwn : key twin = other) (same : content child = content twin) :
      Alike key content (.done target id child) (.done target other twin)

section Contents

variable {key : ε → Nat} {content : ε → ζ} {apply : υ → δ → δ} {base now after : Tables δ ε}
  {inner outer innerTwin outerTwin : Strand υ δ ε}

/-- Ids are below the sequence, those the dependents name too. -/
structure Tables.Sound (key : ε → Nat) (base : Tables δ ε) : Prop where
  rows : ∀ row ∈ base.rows, row.id < base.next
  children : ∀ child ∈ base.children, key child < base.next

/-- Two inserted rows, each with its dependent, add two entries to the contents,
whatever their ids are. -/
theorem contents_inserts (sound : base.Sound key) {left right : Nat} (first second : δ)
    {one other : ε} (leftNew : base.next ≤ left) (rightNew : base.next ≤ right)
    (apart : left ≠ right) (own : key one = left) (otherOwn : key other = right) :
    contents key content (base.rows + {⟨left, first⟩} + {⟨right, second⟩})
        (base.children + {one} + {other}) =
      contents key content base.rows base.children + {(first, {content one})} +
        {(second, {content other})} := by
  have below : ∀ row ∈ base.rows, row.id < base.next := sound.rows
  have named : ∀ child ∈ base.children, key child < base.next := sound.children
  rw [contents_insert second _ _ otherOwn, contents_insert first _ _ own]
  · intro row member same
    have bound := below row member
    omega
  · intro child member same
    have bound := named child member
    omega
  · intro row member same
    rcases Multiset.mem_add.mp member with old | new
    · have bound := below row old
      omega
    · rw [Multiset.mem_singleton.mp new] at same
      exact apart same
  · intro child member same
    rcases Multiset.mem_add.mp member with old | new
    · have bound := named child old
      omega
    · rw [Multiset.mem_singleton.mp new] at same
      exact apart (own.symm.trans same)

/-- Alike strands add the same number of rows. -/
theorem Strand.Alike.inserted {strand twin : Strand υ δ ε}
    (alike : strand.Alike key content twin) : strand.inserted = twin.inserted := by
  cases alike with
  | none => rfl
  | done target own twinOwn same => rfl

/-- A strand adds at most one row. -/
theorem Strand.inserted_le (strand : Strand υ δ ε) : strand.inserted ≤ 1 := by
  rw [Strand.inserted]
  split
  · exact Nat.zero_le 1
  · rename_i target _ _
    cases target with
    | change row update => exact Nat.zero_le 1
    | insert data => exact Nat.le_refl 1

/-- Alike strands that add a row: both are done with the same data, each
dependent hanging on its own row. -/
theorem Strand.Alike.insert {strand twin : Strand υ δ ε}
    (alike : strand.Alike key content twin) (inserts : strand.inserted ≠ 0) :
    ∃ data id other child twinChild, strand = .done (.insert data) id child ∧
      twin = .done (.insert data) other twinChild ∧ key child = id ∧ key twinChild = other ∧
        content child = content twinChild := by
  cases alike with
  | none => exact absurd rfl inserts
  | done target own twinOwn same =>
    cases target with
    | change row update => exact absurd rfl inserts
    | insert data => exact ⟨data, _, _, _, _, rfl, rfl, own, twinOwn, same⟩

/-- Alike ends on the row with one id are one end. -/
theorem Strand.Alike.eq (determined : ∀ child twin : ε, key child = key twin →
      content child = content twin → child = twin) {strand twin : Strand υ δ ε}
    (alike : strand.Alike key content twin)
    (row : ∀ target id other, strand.target = some (target, id) →
      twin.target = some (target, other) → id = other) : strand = twin := by
  cases alike with
  | none => rfl
  | done target own twinOwn same =>
    have ids := row target _ _ rfl rfl
    rw [determined _ _ (own.trans (ids.trans twinOwn.symm)) same, ids]

/-- A changed row has one id, and so has a row that is inserted alone. -/
theorem Strand.Sound.row {strand twin : Strand υ δ ε} (sound : strand.Sound base now)
    (twinSound : twin.Sound base after)
    (alone : strand.inserted = 1 → now.next = base.next + 1 ∧ after.next = base.next + 1)
    (target : Target υ δ) (id other : Nat) (started : strand.target = some (target, id))
    (twinStarted : twin.target = some (target, other)) : id = other := by
  rw [Strand.Sound, started] at sound
  rw [Strand.Sound, twinStarted] at twinSound
  cases target with
  | change row update => exact sound.1.trans twinSound.1.symm
  | insert data =>
    have next := alone (by rw [Strand.inserted, started]; rfl)
    simp only at sound twinSound
    omega

/-- Two weavings with alike strands have the same strands if at most one of them
inserts. The one that inserts gets the next id of the base in both. -/
theorem Woven.alike_eq (determined : ∀ child twin : ε, key child = key twin →
      content child = content twin → child = twin)
    (one : Woven apply base inner outer now) (two : Woven apply base innerTwin outerTwin after)
    (innerAlike : inner.Alike key content innerTwin)
    (outerAlike : outer.Alike key content outerTwin)
    (single : inner.inserted + outer.inserted ≤ 1) :
    inner = innerTwin ∧ outer = outerTwin := by
  have next := one.next
  have twinNext := two.next
  rw [← innerAlike.inserted, ← outerAlike.inserted] at twinNext
  constructor
  · apply innerAlike.eq determined
    apply one.innerSound.row two.innerSound
    intro inserts
    omega
  · apply outerAlike.eq determined
    apply one.outerSound.row two.outerSound
    intro inserts
    omega

/-- When both writers are done, the contents do not depend on the weaving. -/
theorem Woven.contents_eq (determined : ∀ child twin : ε, key child = key twin →
      content child = content twin → child = twin)
    (sound : base.Sound key) (one : Woven apply base inner outer now)
    (two : Woven apply base innerTwin outerTwin after)
    (innerAlike : inner.Alike key content innerTwin)
    (outerAlike : outer.Alike key content outerTwin) :
    contents key content now.rows now.children = contents key content after.rows after.children := by
  by_cases single : inner.inserted + outer.inserted ≤ 1
  · obtain ⟨rfl, rfl⟩ := one.alike_eq determined two innerAlike outerAlike single
    rw [one.rows, two.rows, one.children, two.children]
  · -- Both have inserted: each row carries its own dependent under either id.
    have few := inner.inserted_le
    have fewOuter := outer.inserted_le
    obtain ⟨first, id, other, child, twin, rfl, rfl, own, twinOwn, same⟩ :=
      innerAlike.insert (by omega)
    obtain ⟨second, outerId, outerOther, outerChild, outerTwin, rfl, rfl, outerOwn, outerTwinOwn,
      outerSame⟩ := outerAlike.insert (by omega)
    rw [one.rows, one.children, two.rows, two.children]
    refine (contents_inserts sound first second one.innerSound.1 one.outerSound.1 one.apart own
      outerOwn).trans (Eq.trans ?_ (contents_inserts sound first second two.innerSound.1
        two.outerSound.1 two.apart twinOwn outerTwinOwn).symm)
    rw [same, outerSame]

end Contents

end Store
