import FragmentSink.Commit
import FragmentSink.Storage.Store

/-
  Batches that are committed to a store.

  A store by itself answers every upload at once, so no timer
  ends a wait.

  Key definitions include:
    * `BlobStore.alone`

  Main statements:
    * `BlobStore.keyPrefix_commitAll`
-/

namespace FragmentSink

namespace BlobStore

/- The end of the wait for an upload that was answered. -/
def endOf : Except StorageError Unit → UploadEnd
| .ok () => .stored
| .error _ => .refused

/- A store by itself, at an instant that does not pass. -/
def alone : Surroundings BlobStore where
  now s := (.earliest, s)
  ticks s := (0, s)
  upload f s :=
    let (answer, s) := s.upload f
    (endOf answer, s)
  armTimer _ s := s
  disarmTimer s := s

/- An upload keeps the prefix of the keys. -/
theorem keyPrefix_upload
    (s : BlobStore)
    (f : Fragment) :
    (s.upload f).2.keyPrefix = s.keyPrefix := by
  cases hBackend : s.backend with
  | memory objects => simp only [upload, hBackend]
  | bucket name below => simp only [upload, hBackend]
  | folder root tree =>
      simp only [upload, hBackend]
      split <;> rfl

/- What an upload to a store by itself ends in. -/
theorem alone_upload
    (s : BlobStore)
    (f : Fragment) :
    alone.upload f s = (endOf (s.upload f).1, (s.upload f).2) := by
  rfl

/- A commit keeps the prefix of the keys, however it ends. -/
theorem keyPrefix_commitAll
    (batch : List Fragment)
    (s : BlobStore) :
    (commitAll alone batch s).2.keyPrefix = s.keyPrefix := by
  induction batch generalizing s with
  | nil => rfl
  | cons f fs ih =>
      have hKept := keyPrefix_upload s f
      rw [commitAll, alone_upload]
      cases (s.upload f).1 with
      | ok u => exact (ih _).trans hKept
      | error e => exact hKept

end BlobStore

end FragmentSink
