import FragmentSink.Proofs.Storage.Paths
import FragmentSink.Storage.Batches
import Mathlib.Data.List.Forall2
import Mathlib.Data.List.Nodup

/-
  What a store in memory keeps of the fragments uploaded to it.

  However often and in whatever order fragments are uploaded,
  each place in the stream has one object, with the payload
  that was uploaded last.  A batch that is cut short, and is
  delivered again, leaves nothing behind that a batch committed
  at once would not.

  Main declarations:
    * `latestUploads`
    * `BlobStore.Keeps`
    * `BlobStore.Converges`
    * `Surroundings.Serves`
    * `BlobStore.converges_of_commits`
-/

namespace FragmentSink

variable {σ : Type}

------------------------------------------------------------
-- The Latest Uploads
------------------------------------------------------------

/- The last upload of each place, among uploads in their order. -/
def latestUploads : List Fragment → List Fragment
| [] => []
| f :: fs =>
    if fs.any (·.token = f.token) then
      latestUploads fs
    else
      f :: latestUploads fs

theorem mem_of_mem_latestUploads
    {fs : List Fragment}
    {f : Fragment}
    (hMem : f ∈ latestUploads fs) :
    f ∈ fs := by
  induction fs with
  | nil => exact hMem
  | cons g fs ih =>
      unfold latestUploads at hMem
      split at hMem
      · exact List.mem_cons_of_mem _ (ih hMem)
      · rcases List.mem_cons.mp hMem with rfl | hLater
        · exact List.mem_cons_self
        · exact List.mem_cons_of_mem _ (ih hLater)

/- Every place that was uploaded to has a last upload. -/
theorem exists_latestUpload
    {fs : List Fragment}
    {f : Fragment}
    (hMem : f ∈ fs) :
    ∃ g ∈ latestUploads fs, g.token = f.token := by
  induction fs generalizing f with
  | nil => cases hMem
  | cons h fs ih =>
      unfold latestUploads
      split
      case isTrue hAgain =>
        rcases List.mem_cons.mp hMem with rfl | hLater
        · rcases List.any_eq_true.mp hAgain with ⟨g, hGiven, hToken⟩
          rcases ih hGiven with ⟨k, hLatest, hSame⟩
          exact ⟨k, hLatest, hSame.trans (of_decide_eq_true hToken)⟩
        · exact ih hLater
      case isFalse =>
        rcases List.mem_cons.mp hMem with rfl | hLater
        · exact ⟨f, List.mem_cons_self, rfl⟩
        · rcases ih hLater with ⟨g, hLatest, hSame⟩
          exact ⟨g, List.mem_cons_of_mem _ hLatest, hSame⟩

/- No place has two last uploads. -/
theorem latestUploads_pairwise (fs : List Fragment) :
    (latestUploads fs).Pairwise fun f g => f.token ≠ g.token := by
  induction fs with
  | nil => exact List.Pairwise.nil
  | cons f fs ih =>
      unfold latestUploads
      split
      case isTrue => exact ih
      case isFalse hLast =>
        refine List.pairwise_cons.mpr ⟨fun g hLatest hSame => ?_, ih⟩
        apply hLast
        rw [List.any_eq_true]
        exact ⟨g, mem_of_mem_latestUploads hLatest,
          decide_eq_true hSame.symm⟩

/- One more upload takes the place of the last one there. -/
theorem latestUploads_append_singleton
    (fs : List Fragment)
    (f : Fragment) :
    latestUploads (fs ++ [f]) =
      (latestUploads fs).filter (·.token ≠ f.token) ++ [f] := by
  induction fs with
  | nil => rfl
  | cons g fs ih =>
      simp only [List.cons_append, latestUploads,
        List.any_append, List.any_cons, List.any_nil,
        Bool.or_false, ih]
      by_cases hAgain : fs.any (·.token = g.token)
      · simp [hAgain]
      · by_cases hSame : f.token = g.token
        · simp [hAgain, hSame]
        · simp [hAgain, hSame, Ne.symm hSame]

------------------------------------------------------------
-- Uploads to a Store in Memory
------------------------------------------------------------

namespace BlobStore

/- An empty store in memory. -/
def inMemory (keyPrefix : String) : BlobStore where
  backend := .memory .empty
  keyPrefix := keyPrefix

/- Upload fragments one after the other. -/
def uploadAll (s : BlobStore) (fs : List Fragment) : BlobStore :=
  fs.foldl (fun s f => (s.upload f).2) s

/- The object that an upload of a fragment leaves in a store. -/
def objectOf (s : BlobStore) (f : Fragment) : String × ByteArray :=
  ((s.pathOf f.token).text, f.payload)

/-
  A store that keeps, of fragments uploaded in this order, one
  object for each place, and nothing else.
-/
structure Keeps (s : BlobStore) (fs : List Fragment) : Prop where
  objects :
    s.contents.Perm ((latestUploads fs).map s.objectOf)
  names : (s.contents.map Prod.fst).Nodup

/- A store in memory whose table holds the last uploads. -/
structure Tabled
    (keyPrefix : String)
    (fs : List Fragment)
    (s : BlobStore) : Prop where
  keyPrefix_eq : s.keyPrefix = keyPrefix
  backend_eq :
    ∃ objects, s.backend = .memory objects ∧
      objects.entries.Perm
        ((latestUploads fs).map fun f =>
          (s.pathOf f.token, f.payload))

/- Uploads that share a path only where they share their place. -/
def PathsApart (keyPrefix : String) (fs : List Fragment) : Prop :=
  ∀ f ∈ fs, ∀ g ∈ fs,
    (inMemory keyPrefix).pathOf f.token =
        (inMemory keyPrefix).pathOf g.token →
      f.token = g.token

section Uploads

variable {keyPrefix : String}
variable {fs gs : List Fragment}
variable {s s' : BlobStore}
variable {f : Fragment}

/- Uploads of named partitions share no path. -/
theorem pathsApart_of_isNamed
    (keyPrefix : String)
    (hNamed : ∀ f ∈ fs, f.partitionKey.IsNamed) :
    PathsApart keyPrefix fs :=
  fun f hFirst g hSecond =>
    eq_of_pathOf_eq (hNamed f hFirst) (hNamed g hSecond)

theorem PathsApart.append_left
    (hApart : PathsApart keyPrefix (fs ++ gs)) :
    PathsApart keyPrefix fs :=
  fun f hFirst g hSecond =>
    hApart f (List.mem_append_left gs hFirst) g
      (List.mem_append_left gs hSecond)

theorem tabled_inMemory (keyPrefix : String) :
    Tabled keyPrefix [] (inMemory keyPrefix) :=
  ⟨rfl, .empty, rfl, .refl []⟩

/- An upload to a store in memory replaces what stood at its path. -/
theorem Tabled.upload
    (hTabled : Tabled keyPrefix fs s)
    (hApart : PathsApart keyPrefix (fs ++ [f])) :
    Tabled keyPrefix (fs ++ [f]) (s.upload f).2 := by
  rcases hTabled with ⟨hPrefix, objects, hBackend, hEntries⟩
  have hUpload :
      (s.upload f).2 =
        { s with
          backend :=
            .memory
              (objects.insert (s.pathOf f.token) f.payload) } := by
    simp [BlobStore.upload, hBackend]
  have hOthers
      (g : Fragment)
      (hLatest : g ∈ latestUploads fs) :
      s.pathOf g.token = s.pathOf f.token ↔ g.token = f.token := by
    have hGiven :=
      List.mem_append_left [f] (mem_of_mem_latestUploads hLatest)
    have hNew := List.mem_append_right fs (List.mem_singleton_self f)
    subst hPrefix
    exact ⟨hApart g hGiven f hNew, congrArg s.pathOf⟩
  rw [hUpload]
  refine ⟨hPrefix, _, rfl, ?_⟩
  refine (Entries.perm_insert objects.nodup).trans ?_
  rw [latestUploads_append_singleton, List.map_append,
    List.map_singleton]
  refine List.Perm.append_right _ ?_
  refine (hEntries.filter _).trans (.of_eq ?_)
  rw [List.filter_map]
  refine congrArg _ (List.filter_congr fun g hLatest => ?_)
  simp [hOthers g hLatest]

theorem Tabled.uploadAll
    (hTabled : Tabled keyPrefix fs s)
    (hApart : PathsApart keyPrefix (fs ++ gs)) :
    Tabled keyPrefix (fs ++ gs) (s.uploadAll gs) := by
  induction gs generalizing fs s with
  | nil =>
      rw [List.append_nil]
      exact hTabled
  | cons g gs ih =>
      rw [List.append_cons] at hApart ⊢
      exact ih (hTabled.upload hApart.append_left) hApart

/- What the table of a store holds is what the store keeps. -/
theorem Tabled.keeps
    (hTabled : Tabled keyPrefix fs s)
    (hApart : PathsApart keyPrefix fs) :
    s.Keeps fs := by
  rcases hTabled with ⟨hPrefix, objects, hBackend, hEntries⟩
  have hObjects :
      s.contents.Perm ((latestUploads fs).map s.objectOf) := by
    simp only [contents, hBackend]
    refine (List.mergeSort_perm _ _).trans ?_
    have hMapped :=
      hEntries.map fun (e : ObjectPath × ByteArray) =>
        (e.1.text, e.2)
    rw [List.map_map] at hMapped
    exact hMapped
  refine ⟨hObjects, ?_⟩
  rw [(hObjects.map Prod.fst).nodup_iff, List.map_map,
    List.nodup_iff_pairwise_ne, List.pairwise_map]
  refine (latestUploads_pairwise fs).imp_of_mem ?_
  intro g h hFirst hSecond hTokens hNames
  subst hPrefix
  exact hTokens
    (hApart g (mem_of_mem_latestUploads hFirst) h
      (mem_of_mem_latestUploads hSecond)
      (pathOf_eq_of_text_eq hNames))

/- The contents of a store are in the order of their names. -/
theorem contents_pairwise (s : BlobStore) :
    s.contents.Pairwise fun a b => a.1 ≤ b.1 := by
  have hSorted (found : List (String × ByteArray)) :
      (found.mergeSort fun a b => a.1 ≤ b.1).Pairwise
        fun a b => decide (a.1 ≤ b.1) = true := by
    refine List.pairwise_mergeSort ?_ ?_ found
    · intro a b c hFirst hSecond
      exact decide_eq_true
        (String.le_trans (of_decide_eq_true hFirst)
          (of_decide_eq_true hSecond))
    · intro a b
      rw [Bool.or_eq_true, decide_eq_true_eq, decide_eq_true_eq]
      exact String.le_total a.1 b.1
  exact (hSorted _).imp of_decide_eq_true

/- A place always has the same payload, in two lists of uploads. -/
def Agree (fs gs : List Fragment) : Prop :=
  ∀ f ∈ fs, ∀ g ∈ gs, f.token = g.token → f.payload = g.payload

/- Every place of one list of uploads is a place of another. -/
def PlacesIn (fs gs : List Fragment) : Prop :=
  ∀ f ∈ fs, ∃ g ∈ gs, g.token = f.token

/- What is kept of some places is kept of more. -/
theorem Keeps.contents_subset
    (hFirst : s.Keeps fs)
    (hSecond : s'.Keeps gs)
    (hPrefix : s.keyPrefix = s'.keyPrefix)
    (hAgree : Agree fs gs)
    (hPlaces : PlacesIn fs gs) :
    s.contents ⊆ s'.contents := by
  intro object hObject
  rw [hFirst.objects.mem_iff] at hObject
  rcases List.mem_map.mp hObject with ⟨f, hLatest, rfl⟩
  have hGiven := mem_of_mem_latestUploads hLatest
  rcases hPlaces f hGiven with ⟨h, hAgain, hPlace⟩
  rcases exists_latestUpload hAgain with ⟨g, hOther, hSame⟩
  have hToken := hSame.trans hPlace
  have hContent :=
    hAgree f hGiven g (mem_of_mem_latestUploads hOther) hToken.symm
  rw [hSecond.objects.mem_iff]
  refine List.mem_map.mpr ⟨g, hOther, ?_⟩
  simp only [objectOf, pathOf, hToken, hPrefix, hContent]

/-
  Where a place always has the same payload, what two stores
  keep of the same places is the same.
-/
theorem Keeps.contents_eq
    (hFirst : s.Keeps fs)
    (hSecond : s'.Keeps gs)
    (hPrefix : s.keyPrefix = s'.keyPrefix)
    (hAgree : Agree fs gs)
    (hPlaces : PlacesIn fs gs ∧ PlacesIn gs fs) :
    s.contents = s'.contents := by
  have hBack : Agree gs fs := fun g hMem f hOther hTokens =>
    (hAgree f hOther g hMem hTokens.symm).symm
  have hInto :=
    hFirst.contents_subset hSecond hPrefix hAgree hPlaces.1
  have hFrom :=
    hSecond.contents_subset hFirst hPrefix.symm hBack hPlaces.2
  have hPerm : s.contents.Perm s'.contents :=
    (List.perm_ext_iff_of_nodup hFirst.names.of_map
      hSecond.names.of_map).mpr
      fun object => ⟨@hInto object, @hFrom object⟩
  refine List.Perm.eq_of_pairwise ?_
    s.contents_pairwise s'.contents_pairwise hPerm
  intro a b hHere hThere hBefore hAfter
  exact List.inj_on_of_nodup_map hFirst.names hHere
    (hFrom hThere) (String.le_antisymm hBefore hAfter)

/-
  A store that keeps what was uploaded to it, and would have
  the same contents after any other uploads to the same places,
  where a place always has the same payload.
-/
structure Converges
    (s : BlobStore)
    (fs : List Fragment) : Prop extends s.Keeps fs where
  contents_eq :
    ∀ gs, (∀ g ∈ gs, g.partitionKey.IsNamed) →
      Agree gs fs →
      PlacesIn gs fs ∧ PlacesIn fs gs →
      ((inMemory s.keyPrefix).uploadAll gs).contents = s.contents

/- An empty store in memory keeps what is uploaded to it. -/
theorem tabled_uploadAll
    (hApart : PathsApart keyPrefix fs) :
    Tabled keyPrefix fs ((inMemory keyPrefix).uploadAll fs) :=
  (tabled_inMemory keyPrefix).uploadAll hApart

/- Uploads to an empty store in memory converge. -/
theorem converges_uploadAll
    (keyPrefix : String)
    (hNamed : ∀ f ∈ fs, f.partitionKey.IsNamed) :
    ((inMemory keyPrefix).uploadAll fs).Converges fs := by
  have hApart := pathsApart_of_isNamed keyPrefix hNamed
  have hUploads := tabled_uploadAll hApart
  refine ⟨hUploads.keeps hApart, ?_⟩
  intro gs hOthers hAgree hPlaces
  have hOther := pathsApart_of_isNamed keyPrefix hOthers
  have hAgain := tabled_uploadAll hOther
  rw [hUploads.keyPrefix_eq]
  exact (hAgain.keeps hOther).contents_eq (hUploads.keeps hApart)
    (hAgain.keyPrefix_eq.trans hUploads.keyPrefix_eq.symm)
    hAgree hPlaces

end Uploads

end BlobStore

------------------------------------------------------------
-- Commits to a Store
------------------------------------------------------------

/-
  A storage through which a store is reached.  What it answers
  as stored has reached the store.  An upload that ends
  otherwise, because it was refused, waited for too long or
  dropped, may have reached the store or not.
-/
structure Surroundings.Serves
    (env : Surroundings σ)
    (store : σ → BlobStore) : Prop where
  stored :
    ∀ f s, (env.upload f s).1 = .stored →
      store (env.upload f s).2 = ((store s).upload f).2
  upload :
    ∀ f s,
      store (env.upload f s).2 = ((store s).upload f).2 ∨
        store (env.upload f s).2 = store s
  armTimer : ∀ span s, store (env.armTimer span s) = store s
  disarmTimer : ∀ s, store (env.disarmTimer s) = store s

/-
  The part of a batch that reaches a store by a commit: a first
  part, and all of it where the commit is durable.
-/
structure SentBy
    (batch sent : List Fragment)
    (ending : CommitEnd) : Prop where
  front : sent <+: batch
  whole : ending = .durable → sent = batch

/- Commit batches one after the other, each within its own limit. -/
def commitEach
    (env : Surroundings σ) :
    List (Option Span × List Fragment) → σ → List CommitEnd × σ
| [], s => ([], s)
| (limit, batch) :: batches, s =>
    let (ending, s) := commitWithin env limit batch s
    let (endings, s) := commitEach env batches s
    (ending :: endings, s)

/- The same of batches one by one, with the ends of their commits. -/
def SentByEach :
    List (Option Span × List Fragment) →
      List (List Fragment × CommitEnd) → Prop :=
  List.Forall₂ fun batch done => SentBy batch.2 done.1 done.2

section Commits

variable {env : Surroundings σ}
variable {store : σ → BlobStore}

theorem commitAll_sends
    (hServes : env.Serves store)
    (batch : List Fragment)
    (s : σ) :
    ∃ sent,
      SentBy batch sent (commitAll env batch s).1 ∧
        store (commitAll env batch s).2 =
          (store s).uploadAll sent := by
  induction batch generalizing s with
  | nil => exact ⟨[], ⟨List.prefix_rfl, fun _ => rfl⟩, rfl⟩
  | cons f batch ih =>
      have hCut
          (ending : CommitEnd)
          (hEnding : ending ≠ .durable) :
          ∃ sent,
            SentBy (f :: batch) sent ending ∧
              store (env.upload f s).2 =
                (store s).uploadAll sent := by
        rcases hServes.upload f s with hReached | hMissed
        · exact ⟨[f],
            ⟨⟨batch, rfl⟩, fun hEq => absurd hEq hEnding⟩,
            hReached⟩
        · exact ⟨[],
            ⟨List.nil_prefix, fun hEq => absurd hEq hEnding⟩,
            hMissed⟩
      have hStored := hServes.stored f s
      rw [commitAll]
      generalize env.upload f s = answered at hCut hStored ⊢
      rcases answered with ⟨answer, s'⟩
      cases answer with
      | stored =>
          rcases ih s' with ⟨sent, ⟨hFront, hWhole⟩, hStore⟩
          refine ⟨f :: sent, ⟨?_, fun hEnds => ?_⟩, ?_⟩
          · exact List.cons_prefix_cons.mpr ⟨rfl, hFront⟩
          · rw [hWhole hEnds]
          · rw [hStore, hStored rfl]
            rfl
      | refused => exact hCut .failed (by decide)
      | expired => exact hCut .failed (by decide)
      | dropped => exact hCut .dropped (by decide)

theorem commitWithin_sends
    (hServes : env.Serves store)
    (limit : Option Span)
    (batch : List Fragment)
    (s : σ) :
    ∃ sent,
      SentBy batch sent (commitWithin env limit batch s).1 ∧
        store (commitWithin env limit batch s).2 =
          (store s).uploadAll sent := by
  cases limit with
  | none => exact commitAll_sends hServes batch s
  | some span =>
      rcases commitAll_sends hServes batch (env.armTimer span s)
        with ⟨sent, hSent, hStore⟩
      rw [hServes.armTimer] at hStore
      exact ⟨sent, hSent,
        (hServes.disarmTimer _).trans hStore⟩

/- What batches send to a store is uploaded in the order of the batches. -/
theorem commitEach_sends
    (hServes : env.Serves store)
    (batches : List (Option Span × List Fragment))
    (s : σ) :
    ∃ sent : List (List Fragment × CommitEnd),
      sent.map Prod.snd = (commitEach env batches s).1 ∧
        SentByEach batches sent ∧
        store (commitEach env batches s).2 =
          (store s).uploadAll (sent.flatMap Prod.fst) := by
  induction batches generalizing s with
  | nil => exact ⟨[], rfl, .nil, rfl⟩
  | cons batch batches ih =>
      rcases batch with ⟨limit, batch⟩
      rcases commitWithin_sends hServes limit batch s with
        ⟨first, hFirst, hBetween⟩
      rcases ih (commitWithin env limit batch s).2 with
        ⟨rest, hEndings, hRest, hStore⟩
      refine ⟨(first, (commitWithin env limit batch s).1) :: rest,
        ?_, .cons hFirst hRest, ?_⟩
      · simp [commitEach, hEndings]
      · simp only [commitEach, hStore, hBetween,
          BlobStore.uploadAll, List.flatMap_cons,
          List.foldl_append]

/- What is sent of batches is uploaded to their own places. -/
theorem mem_of_sentByEach
    {batches : List (Option Span × List Fragment)}
    {sent : List (List Fragment × CommitEnd)}
    {f : Fragment}
    (hSent : SentByEach batches sent)
    (hMem : f ∈ sent.flatMap Prod.fst) :
    f ∈ batches.flatMap Prod.snd := by
  induction hSent with
  | nil => exact hMem
  | cons hFirst hRest ih =>
      rw [List.flatMap_cons, List.mem_append] at hMem ⊢
      rcases hMem with hHere | hLater
      · exact .inl (hFirst.front.subset hHere)
      · exact .inr (ih hLater)

end Commits

/-
  Redelivery is idempotent in storage.  Whatever batches are
  committed to an empty store in memory, and however each
  commit ends, the store keeps one object for each place that
  was uploaded to, with the payload of the last upload.  Where
  a place always has the same payload, any uploads to the same
  places would have left the same contents.
-/
theorem BlobStore.converges_of_commits
    {env : Surroundings σ}
    {store : σ → BlobStore}
    (hServes : env.Serves store)
    (keyPrefix : String)
    (batches : List (Option Span × List Fragment))
    (s : σ)
    (hEmpty : store s = inMemory keyPrefix)
    (hNamed :
      ∀ f ∈ batches.flatMap Prod.snd, f.partitionKey.IsNamed) :
    ∃ sent : List (List Fragment × CommitEnd),
      sent.map Prod.snd = (commitEach env batches s).1 ∧
        SentByEach batches sent ∧
        (store (commitEach env batches s).2).Converges
          (sent.flatMap Prod.fst) := by
  rcases commitEach_sends hServes batches s with
    ⟨sent, hEndings, hSent, hStore⟩
  refine ⟨sent, hEndings, hSent, ?_⟩
  rw [hStore, hEmpty]
  exact converges_uploadAll keyPrefix fun f hMem =>
    hNamed f (mem_of_sentByEach hSent hMem)

/- A store behind a connection that fails as listed, and then no more. -/
def BlobStore.unsteady : Surroundings (BlobStore × List UploadEnd) where
  now s := (.earliest, s)
  ticks s := (0, s)
  upload f s :=
    match s.2.headD .stored with
    | .stored => (.stored, (s.1.upload f).2, s.2.tail)
    | ending => (ending, s.1, s.2.tail)
  armTimer _ s := s
  disarmTimer s := s

theorem BlobStore.serves_unsteady : unsteady.Serves Prod.fst where
  stored f s hStored := by
    simp only [unsteady] at hStored ⊢
    split
    · rfl
    · simp_all
  upload f s := by
    simp only [unsteady]
    split
    · exact .inl rfl
    · exact .inr rfl
  armTimer _ _ := rfl
  disarmTimer _ := rfl

/- A batch of one partition that is cut short, one of another, and the first again. -/
def redeliveredBatches : List (Option Span × List Fragment) :=
  let logs := [3, 4].map fun offset =>
    (⟨.empty, 5, ⟨⟨"logs/eu", 0⟩, offset⟩⟩ : Fragment)
  [(none, logs), (none, [⟨.empty, 5, ⟨⟨"logs", 0⟩, 3⟩⟩]),
    (none, logs)]

theorem BlobStore.converges_of_redeliveredBatches :
    (commitEach unsteady redeliveredBatches
        (inMemory "archive", [.stored, .refused])).1 =
        [.failed, .durable, .durable] ∧
      ∃ sent : List (List Fragment × CommitEnd),
        sent.map Prod.snd =
            (commitEach unsteady redeliveredBatches
              (inMemory "archive", [.stored, .refused])).1 ∧
          SentByEach redeliveredBatches sent ∧
          (commitEach unsteady redeliveredBatches
              (inMemory "archive",
                [.stored, .refused])).2.1.Converges
            (sent.flatMap Prod.fst) := by
  refine ⟨by decide +kernel, ?_⟩
  exact converges_of_commits serves_unsteady "archive"
    redeliveredBatches _ rfl (by decide +kernel)

end FragmentSink
