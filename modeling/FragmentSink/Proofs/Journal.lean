import FragmentSink.Proofs.History
import Mathlib.Data.List.TakeWhile

/-
  The source of one partition: what it holds, and how it
  delivers it to the engines that read from it.

  A partition holds fragments of increasing offsets.  It
  delivers them in order, and its place moves back when an
  engine rewinds it, or to the point after the last
  acknowledged offset when the partition changes hands.

  Main declarations:
    * `Journal`
    * `Journal.Follows`
    * `Journal.InOrder`
    * `Journal.Follows.suffix`
-/

namespace FragmentSink

------------------------------------------------------------
-- Journals
------------------------------------------------------------

/- The fragments of one partition, from its start position on. -/
structure Journal (p : PartitionKey) where
  fragments : List Fragment
  keyed : ∀ f ∈ fragments, f.partitionKey = p
  increasing : fragments.Pairwise fun f g => f.offset < g.offset

/-
  Where the source of a partition stands: the fragments it has
  yet to deliver, and those it delivers to whoever starts
  after the last acknowledged offset.
-/
structure Cursor where
  unread : List Fragment
  resume : List Fragment

/- A delivered fragment of a partition is the next unread one. -/
def Cursor.Brings (p : PartitionKey) (c : Cursor) : Event → Prop
| .poll (.done (.fragment f)) =>
    f.partitionKey = p → c.unread.head? = some f
| _ => True

instance (p : PartitionKey) (c : Cursor) : DecidablePred (c.Brings p)
| .poll (.done (.fragment f)) =>
    inferInstanceAs
      (Decidable (f.partitionKey = p → c.unread.head? = some f))
| .poll (.done .quiet) | .poll (.done (.failed _ _ _))
| .poll .dropped | .clock _ | .upload _ _ | .commit _ _
| .rewind _ _ _ | .assigned _ | .noise _ | .sleep _ _
| .closing | .started => isTrue trivial

namespace Journal

variable {p : PartitionKey}
variable {h : History}
variable {c : Cursor}

/- The fragments from an offset on. -/
def since (j : Journal p) (offset : Int64) : List Fragment :=
  j.fragments.dropWhile (·.offset < offset)

/- The fragments after an offset. -/
def past (j : Journal p) (offset : Int64) : List Fragment :=
  j.fragments.dropWhile (·.offset ≤ offset)

/- The place of the source before anything has happened. -/
def start (j : Journal p) : Cursor :=
  ⟨j.fragments, j.fragments⟩

/- The place of the source after an event. -/
def next (j : Journal p) (c : Cursor) : Event → Cursor
| .poll (.done (.fragment f)) =>
    if f.partitionKey = p then
      { c with unread := c.unread.tail }
    else
      c
| .rewind q offset (.ok _) =>
    if q = p then { c with unread := j.since offset } else c
| .commit t (.done (.ok _)) =>
    if t.key = p then { c with resume := j.past t.offset } else c
| .assigned (.ok ps) =>
    if p ∈ ps then c else { c with unread := c.resume }
| .started => { c with unread := c.resume }
| _ => c

/-
  The histories over which a source may stand at a place.  A
  partition may change hands unnoticed, a commit that was
  called may count although its answer was lost or bad, and a
  rewind that failed may still have moved the place.
-/
inductive Follows (j : Journal p) : History → Cursor → Prop
| start : Follows j [] j.start
| event
    {h : History}
    {c : Cursor}
    (e : Event)
    (hFollows : Follows j h c)
    (hBrings : c.Brings p e) :
    Follows j (e :: h) (j.next c e)
| rebalanced
    {h : History}
    {c : Cursor}
    (hFollows : Follows j h c) :
    Follows j h { c with unread := c.resume }
| counted
    {h : History}
    {c : Cursor}
    {t : OffsetToken}
    {a : Awaited (Except Error Unit)}
    (hFollows : Follows j h c)
    (hCommit : .commit t a ∈ h)
    (hKey : t.key = p) :
    Follows j h { c with resume := j.past t.offset }
| strayed
    {h : History}
    {c : Cursor}
    (offset : Int64)
    (cause : Error)
    (hFollows : Follows j h c) :
    Follows j (.rewind p offset (.error cause) :: h)
      { c with unread := j.since offset }

/- The place of a source that moves back on rewinds alone. -/
def cursorAt (j : Journal p) : History → Cursor
| [] => j.start
| e :: h => j.next (j.cursorAt h) e

/- Every fragment was delivered in its turn by such a source. -/
def InOrder (j : Journal p) : History → Prop
| [] => True
| e :: h => (j.cursorAt h).Brings p e ∧ j.InOrder h

instance decidableInOrder
    (j : Journal p) :
    (h : History) → Decidable (j.InOrder h)
| [] => .isTrue trivial
| e :: h =>
    have := decidableInOrder j h
    inferInstanceAs
      (Decidable ((j.cursorAt h).Brings p e ∧ j.InOrder h))

theorem InOrder.follows
    {j : Journal p}
    (hOrder : j.InOrder h) :
    j.Follows h (j.cursorAt h) := by
  induction h with
  | nil => exact .start
  | cons e h ih => exact .event e (ih hOrder.2) hOrder.1

------------------------------------------------------------
-- Places in a Journal
------------------------------------------------------------

variable {j : Journal p}
variable {f g : Fragment}

/- What fails the test is not dropped with what passes it. -/
theorem mem_dropWhile
    {test : Fragment → Bool}
    {fs : List Fragment}
    (hMember : f ∈ fs)
    (hTest : test f = false) :
    f ∈ fs.dropWhile test := by
  rw [← List.takeWhile_append_dropWhile (p := test) (l := fs),
    List.mem_append] at hMember
  rcases hMember with hBefore | hAfter
  · rw [List.mem_takeWhile_imp hBefore] at hTest
    cases hTest
  · exact hAfter

theorem mem_since
    {offset : Int64}
    (hMember : f ∈ j.fragments)
    (hOffset : ¬ f.offset < offset) :
    f ∈ j.since offset :=
  mem_dropWhile hMember (decide_eq_false hOffset)

theorem mem_past
    {offset : Int64}
    (hMember : f ∈ j.fragments)
    (hOffset : ¬ f.offset ≤ offset) :
    f ∈ j.past offset :=
  mem_dropWhile hMember (decide_eq_false hOffset)

/- Nothing but an acknowledged commit moves the point of resumption. -/
theorem resume_next (j : Journal p) (c : Cursor) (e : Event) :
    (j.next c e).resume = c.resume ∨
      ∃ t a, e = .commit t a ∧ t.key = p ∧
        (j.next c e).resume = j.past t.offset := by
  unfold next
  split
  case h_3 t a =>
    split
    case isTrue hKey => exact .inr ⟨t, _, rfl, hKey, rfl⟩
    case isFalse => exact .inl rfl
  all_goals
    repeat' split
    all_goals exact .inl rfl

/- A commit leaves what is still to be delivered as it is. -/
theorem unread_next_commit
    (j : Journal p)
    (c : Cursor)
    (t : OffsetToken)
    (a : Awaited (Except Error Unit)) :
    (j.next c (.commit t a)).unread = c.unread := by
  rcases a with (cause | _) | _
  · rfl
  · simp only [next]
    split <;> rfl
  · rfl

/- A source stands in its own journal. -/
structure Stands (j : Journal p) (c : Cursor) : Prop where
  unread : c.unread <:+ j.fragments
  resume : c.resume <:+ j.fragments

theorem Stands.next
    (hStands : j.Stands c)
    (e : Event) :
    j.Stands (j.next c e) := by
  unfold Journal.next
  split
  case h_1 =>
    split
    · exact ⟨(List.tail_suffix _).trans hStands.unread,
        hStands.resume⟩
    · exact hStands
  case h_2 =>
    split
    · exact ⟨List.dropWhile_suffix _, hStands.resume⟩
    · exact hStands
  case h_3 =>
    split
    · exact ⟨hStands.unread, List.dropWhile_suffix _⟩
    · exact hStands
  case h_4 =>
    split
    · exact hStands
    · exact ⟨hStands.resume, hStands.resume⟩
  case h_5 => exact ⟨hStands.resume, hStands.resume⟩
  case h_6 => exact hStands

theorem Follows.stands (hFollows : j.Follows h c) : j.Stands c := by
  induction hFollows with
  | start => exact ⟨List.suffix_rfl, List.suffix_rfl⟩
  | event e _ _ ih => exact ih.next e
  | rebalanced _ ih => exact ⟨ih.resume, ih.resume⟩
  | counted _ _ _ ih =>
      exact ⟨ih.unread, List.dropWhile_suffix _⟩
  | strayed _ _ _ ih =>
      exact ⟨List.dropWhile_suffix _, ih.resume⟩

/- What was followed before an event can be followed to there. -/
theorem Follows.before
    {es : History}
    (hFollows : j.Follows (es ++ h) c) :
    ∃ c', j.Follows h c' := by
  generalize hAll : es ++ h = all at hFollows
  induction hFollows generalizing es with
  | start =>
      rw [(List.append_eq_nil_iff.mp hAll).2]
      exact ⟨_, .start⟩
  | event e hBefore hBrings ih =>
      cases es with
      | nil =>
          subst hAll
          exact ⟨_, .event e hBefore hBrings⟩
      | cons d es => exact ih (List.cons.inj hAll).2
  | rebalanced _ ih => exact ih hAll
  | counted _ _ _ ih => exact ih hAll
  | strayed offset cause hBefore ih =>
      cases es with
      | nil =>
          subst hAll
          exact ⟨_, .strayed offset cause hBefore⟩
      | cons d es => exact ih (List.cons.inj hAll).2

/- Before an event, the source stood where the event could happen. -/
theorem Follows.brings
    {e : Event}
    (hFollows : j.Follows (e :: h) c) :
    ∃ c', j.Follows h c' ∧ c'.Brings p e := by
  generalize hAll : e :: h = all at hFollows
  induction hFollows with
  | start => cases hAll
  | event e hBefore hBrings =>
      cases hAll
      exact ⟨_, hBefore, hBrings⟩
  | rebalanced _ ih => exact ih hAll
  | counted _ _ _ ih => exact ih hAll
  | strayed offset cause hBefore =>
      cases hAll
      exact ⟨_, hBefore, trivial⟩

/- The next unread fragment stands first among the unread. -/
theorem Stands.eq_or_lt
    (hStands : j.Stands c)
    (hHead : c.unread.head? = some f)
    (hMember : g ∈ c.unread) :
    g = f ∨ f.offset < g.offset := by
  have hIncreasing :=
    j.increasing.sublist hStands.unread.sublist
  rcases hUnread : c.unread with _ | ⟨first, rest⟩
  · simp [hUnread] at hHead
  · rw [hUnread] at hHead hMember hIncreasing
    cases hHead
    rcases List.mem_cons.mp hMember with rfl | hRest
    · exact .inl rfl
    · exact .inr ((List.pairwise_cons.mp hIncreasing).1 g hRest)

theorem Stands.mem_of_head?
    (hStands : j.Stands c)
    (hHead : c.unread.head? = some f) :
    f ∈ j.fragments :=
  hStands.unread.subset (List.mem_of_head? hHead)

------------------------------------------------------------
-- Journals in Order
------------------------------------------------------------

/- An event that does not steer a partition leaves the place alone. -/
theorem next_of_not_steers
    {e : Event}
    (j : Journal p)
    (c : Cursor)
    (hEvent : ¬ e.Steers p) :
    j.next c e = c := by
  unfold next
  split
  case h_1 => exact if_neg hEvent
  case h_2 => exact if_neg hEvent
  case h_3 => exact if_neg hEvent
  case h_4 => exact absurd trivial hEvent
  case h_5 => exact absurd trivial hEvent
  case h_6 => rfl

theorem cursorAt_grows
    {h' : History}
    (j : Journal p)
    (hGrows : Grows (fun e => ¬ e.Steers p) h h') :
    j.cursorAt h' = j.cursorAt h :=
  hGrows.induction (motive := fun g =>
      j.cursorAt g = j.cursorAt h) rfl
    fun _ _ hEvent hEq =>
      (j.next_of_not_steers _ hEvent).trans hEq

theorem InOrder.of_suffix
    {h' : History}
    (hOrder : j.InOrder h')
    (hSuffix : h <:+ h') :
    j.InOrder h := by
  rcases hSuffix with ⟨es, rfl⟩
  induction es with
  | nil => exact hOrder
  | cons e es ih => exact ih hOrder.2

/- A fragment that is delivered in order was the next unread one. -/
theorem InOrder.unread_eq
    (hOrder : j.InOrder (.poll (.done (.fragment f)) :: h))
    (hKey : f.partitionKey = p) :
    (j.cursorAt h).unread =
      f ::
        (j.cursorAt (.poll (.done (.fragment f)) :: h)).unread := by
  have hHead := hOrder.1 hKey
  have hNext :
      (j.cursorAt (.poll (.done (.fragment f)) :: h)).unread =
        (j.cursorAt h).unread.tail := by
    simp [cursorAt, next, hKey]
  rw [hNext]
  rcases hUnread : (j.cursorAt h).unread with _ | ⟨first, rest⟩
  · simp [hUnread] at hHead
  · rw [hUnread] at hHead
    cases hHead
    rfl

end Journal

end FragmentSink
