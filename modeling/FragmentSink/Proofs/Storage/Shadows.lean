import FragmentSink.Proofs.Storage.Redelivery

/-
  No stored fragment takes the place of another, nor stands in
  its way.

  Keys and paths determine the fragment they are made for.  A
  path whose topic has no slash never continues another one, so
  among the files of a local folder no object stands where
  another needs a folder.

  Main declarations:
    * `storageKey_injective`
    * `PartitionKey.IsFlat`
    * `segments_eq_of_front`
    * `FileTree.Admits`
    * `BlobStore.KeepsApart`
-/

namespace FragmentSink

------------------------------------------------------------
-- Widths of Numbers
------------------------------------------------------------

namespace Decimal

theorem length_zeroFilled
    (width : Nat)
    (cs : List Char) :
    (zeroFilled width cs).length = max width cs.length := by
  simp only [zeroFilled, List.length_append, List.length_replicate]
  omega

/- A filled number is at least as wide as it is filled to. -/
theorem le_length_padded
    (width : Nat)
    (n : Int) :
    width ≤ (padded width n).length := by
  unfold padded
  split
  · rw [List.length_cons, length_zeroFilled]
    omega
  · rw [length_zeroFilled]
    omega

/- The number of a partition takes ten digits and a sign at most. -/
theorem length_padded_partition (n : Int32) :
    (padded 0 n.toInt).length ≤ 11 := by
  have hLow := n.le_toInt
  have hHigh := n.toInt_lt
  have hDigits : (digits n.toInt.natAbs).length ≤ 10 := by
    rw [digits, Nat.length_toDigits_le_iff (by decide) (by decide)]
    omega
  unfold padded
  split
  · rw [List.length_cons, length_zeroFilled]
    omega
  · rw [length_zeroFilled]
    omega

/- So it is never as wide as an offset is filled to. -/
theorem padded_offset_ne_padded_partition
    (offset : Int64)
    (partition : Int32) :
    padded offsetWidth offset.toInt ≠ padded 0 partition.toInt := by
  intro hEq
  have hWide := le_length_padded offsetWidth offset.toInt
  have hNarrow := length_padded_partition partition
  rw [hEq, offsetWidth] at hWide
  omega

end Decimal

------------------------------------------------------------
-- Keys
------------------------------------------------------------

/- The parts of a token's key: those of the topic, the partition and the offset. -/
theorem splitAt_tokenKey (t : OffsetToken) :
    Parts.splitAt '/' (tokenKey t) =
      Parts.splitAt '/' t.key.topic.toList ++
        [Decimal.padded 0 t.key.partition.toInt,
          Decimal.padded offsetWidth t.offset.toInt] := by
  have hNumber (width : Nat) (n : Int) :
      Parts.splitAt '/' (Decimal.padded width n) =
        [Decimal.padded width n] :=
    Parts.splitAt_of_not_mem (Decimal.slash_not_mem_padded width n)
  rw [tokenKey, Decimal.toList_toString, List.append_assoc,
    List.cons_append, Parts.splitAt_append_cons,
    Parts.splitAt_append_cons, hNumber, hNumber]
  rfl

/- The key without its prefix is read back from the right. -/
theorem tokenKey_injective : Function.Injective tokenKey := by
  intro t u hEq
  have hParts := congrArg (Parts.splitAt '/') hEq
  rw [splitAt_tokenKey, splitAt_tokenKey] at hParts
  rcases List.append_inj' hParts (by simp) with ⟨hTopics, hPlaces⟩
  simp only [List.cons.injEq, and_true] at hPlaces
  have hTopic :=
    String.toList_inj.mp (Parts.splitAt_injective '/' hTopics)
  have hPartition :=
    Int32.toInt_inj.mp (Decimal.padded_injective 0 hPlaces.1)
  have hOffset :=
    Int64.toInt_inj.mp
      (Decimal.padded_injective offsetWidth hPlaces.2)
  exact OffsetToken.eq_of_parts hTopic hPartition hOffset

/- Under one prefix, every key is the key of one token. -/
theorem storageKey_injective (keyPrefix : String) :
    Function.Injective (storageKey keyPrefix) := by
  intro t u hEq
  have hChars := String.ofList_injective hEq
  unfold storageKeyChars at hChars
  split at hChars
  · exact tokenKey_injective hChars
  · rw [List.append_cancel_left_eq, List.cons.injEq] at hChars
    exact tokenKey_injective hChars.2

------------------------------------------------------------
-- Paths That Continue One Another
------------------------------------------------------------

/- A partition whose topic has no slash. -/
def PartitionKey.IsFlat (p : PartitionKey) : Prop :=
  '/' ∉ p.topic.toList

instance (p : PartitionKey) : Decidable p.IsFlat := by
  unfold PartitionKey.IsFlat
  infer_instance

/- A topic without a slash is one segment, or none where it is empty. -/
theorem segments_topic
    {p : PartitionKey}
    (hFlat : p.IsFlat) :
    (ObjectPath.ofKeyChars p.topic.toList).segments = [] ∨
      ∃ segment,
        (ObjectPath.ofKeyChars p.topic.toList).segments =
          [segment] := by
  by_cases hEmpty : p.topic.toList = []
  · rw [hEmpty]
    exact .inl rfl
  · exact .inr ⟨_, ObjectPath.segments_of_not_mem hEmpty hFlat⟩

namespace BlobStore

variable {s : BlobStore}
variable {t u : OffsetToken}

/-
  A path whose topic has no slash is continued by no other such
  path.  The one of an empty topic is a segment shorter than
  the others, but its offset is never a partition's number.
-/
theorem segments_eq_of_front
    (hFirst : t.key.IsFlat)
    (hSecond : u.key.IsFlat)
    (hPrefix :
      (s.pathOf t).segments <+: (s.pathOf u).segments) :
    (s.pathOf t).segments = (s.pathOf u).segments := by
  rw [segments_pathOf, segments_pathOf,
    List.prefix_append_right_inj] at hPrefix
  rw [segments_pathOf, segments_pathOf, List.append_cancel_left_eq]
  have hShorter := hPrefix.length_le
  rcases segments_topic hFirst with hBare | ⟨segment, hNamed⟩
  · rcases segments_topic hSecond with hOther | ⟨other, hOther⟩
    · rw [hBare, hOther] at hPrefix ⊢
      exact hPrefix.eq_of_length (by simp [OffsetToken.placeSegments])
    · rw [hBare, hOther] at hPrefix
      simp only [OffsetToken.placeSegments, List.nil_append,
        List.singleton_append, List.cons_prefix_cons] at hPrefix
      have hPlace :=
        ObjectPath.encodeSegment_injective hPrefix.2.1
      exact absurd hPlace
        (Decimal.padded_offset_ne_padded_partition _ _)
  · rcases segments_topic hSecond with hBare | ⟨other, hOther⟩
    · rw [hNamed, hBare] at hShorter
      simp [OffsetToken.placeSegments] at hShorter
    · rw [hNamed, hOther] at hPrefix ⊢
      exact hPrefix.eq_of_length (by simp [OffsetToken.placeSegments])

end BlobStore

------------------------------------------------------------
-- Files and Folders
------------------------------------------------------------

/- Names of which none stays in its folder or goes up. -/
def FilePath.IsPlain (names : FilePath) : Prop :=
  ∀ name ∈ names, name ≠ ['.'] ∧ name ≠ ['.', '.']

/- A path that leads to a place below that of another. -/
def FilePath.Leads (front names : FilePath) : Prop :=
  front <+: names ∧ front ≠ names

namespace FileTree

variable {tree : FileTree}
variable {here root names others path : FilePath}
variable {content : ByteArray}

theorem node?_put
    (tree : FileTree)
    {path : FilePath}
    (hNonempty : path ≠ [])
    (n : FileNode)
    (other : FilePath) :
    (tree.put path n).node? other =
      if path = other then some n else tree.node? other := by
  unfold node? put
  by_cases hSame : path = other
  · subst hSame
    simp [hNonempty, Table.get?_insert]
  · simp [hSame, Table.get?_insert]

/- Making folders along a path makes folders on it, and nothing else. -/
theorem node?_makeAlong
    (tree : FileTree)
    (here : FilePath)
    (hPlain : FilePath.IsPlain names)
    (path : FilePath) :
    (tree.makeAlong here names).2.node? path = tree.node? path ∨
      (∃ front, front <+: names ∧ path = here ++ front) ∧
        (tree.makeAlong here names).2.node? path =
          some .folder := by
  induction names generalizing tree here with
  | nil => exact .inl rfl
  | cons name names ih =>
      rw [FilePath.IsPlain, List.forall_mem_cons] at hPlain
      rcases hPlain with ⟨⟨hStays, hUp⟩, hPlain⟩
      have hFurther
          {front : FilePath}
          (hFront : front <+: names) :
          ∃ front', front' <+: name :: names ∧
            here ++ [name] ++ front = here ++ front' :=
        ⟨name :: front, List.cons_prefix_cons.mpr ⟨rfl, hFront⟩,
          by simp⟩
      simp only [makeAlong, hStays, hUp, if_false]
      split
      case h_1 =>
        rcases ih tree (here ++ [name]) hPlain with
          hSame | ⟨⟨front, hFront, rfl⟩, hFolder⟩
        · exact .inl hSame
        · exact .inr ⟨hFurther hFront, hFolder⟩
      case h_2 => exact .inl rfl
      case h_3 =>
        split
        · exact .inl rfl
        · rcases ih (tree.put (here ++ [name]) .folder)
            (here ++ [name]) hPlain with
            hSame | ⟨⟨front, hFront, rfl⟩, hFolder⟩
          · rw [hSame, node?_put tree (by simp)]
            split
            case isTrue hHere =>
              refine .inr ⟨⟨[name], ?_, hHere.symm⟩, rfl⟩
              exact List.cons_prefix_cons.mpr ⟨rfl, List.nil_prefix⟩
            case isFalse => exact .inl rfl
          · exact .inr ⟨hFurther hFront, hFolder⟩

/- Folders cannot be made where a name is too long or a file stands on the path. -/
theorem makeAlong_error
    {e : FileError}
    (hPlain : FilePath.IsPlain names)
    (hError : (tree.makeAlong here names).1 = .error e) :
    e = .nameTooLong ∨
      ∃ front content, front <+: names ∧
        tree.node? (here ++ front) = some (.file content) := by
  induction names generalizing tree here with
  | nil => cases hError
  | cons name names ih =>
      rw [FilePath.IsPlain, List.forall_mem_cons] at hPlain
      rcases hPlain with ⟨⟨hStays, hUp⟩, hPlain⟩
      have hFurther
          {front : FilePath}
          {content : ByteArray}
          (hFront : front <+: names)
          (hFile :
            tree.node? (here ++ [name] ++ front) =
              some (.file content)) :
          ∃ front content, front <+: name :: names ∧
            tree.node? (here ++ front) = some (.file content) := by
        refine ⟨name :: front, content,
          List.cons_prefix_cons.mpr ⟨rfl, hFront⟩, ?_⟩
        rw [← hFile, List.append_assoc, List.singleton_append]
      simp only [makeAlong, hStays, hUp, if_false] at hError
      split at hError
      case h_1 =>
        rcases ih hPlain hError with
          hLong | ⟨front, content, hFront, hFile⟩
        · exact .inl hLong
        · exact .inr (hFurther hFront hFile)
      case h_2 content hFile =>
        exact .inr (hFurther List.nil_prefix (by simpa using hFile))
      case h_3 =>
        split at hError
        · exact .inl (Except.error.inj hError).symm
        · rcases ih hPlain hError with
            hLong | ⟨front, content, hFront, hFile⟩
          · exact .inl hLong
          · rw [node?_put tree (by simp)] at hFile
            split at hFile
            · cases hFile
            · exact .inr (hFurther hFront hFile)

/- A path on the way to the folder of a file leads to the file. -/
theorem leads_of_prefix_dropLast
    {front : FilePath}
    (hNonempty : names ≠ [])
    (hFront : front <+: names.dropLast) :
    FilePath.Leads front names := by
  refine ⟨hFront.trans (List.dropLast_prefix names), ?_⟩
  rintro rfl
  have hLength := hFront.length_le
  have hPositive := List.length_pos_of_ne_nil hNonempty
  rw [List.length_dropLast] at hLength
  omega

theorem isPlain_dropLast
    (hPlain : FilePath.IsPlain names) :
    FilePath.IsPlain names.dropLast :=
  fun name hMem => hPlain name ((List.dropLast_prefix names).subset hMem)

/-
  How the writing of a file ends, and the tree it leaves: there
  is no folder to write below, a folder on the way cannot be
  made, a folder stands at the file's place, its name is too
  long, or it is written.
-/
inductive Writes
    (tree : FileTree)
    (root names : FilePath)
    (content : ByteArray) :
    Except FileError Unit → FileTree → Prop
| nowhere
    (e : FileError)
    (hRoot : tree.node? root ≠ some .folder) :
    Writes tree root names content (.error e) tree
| stopped
    (e answer : FileError)
    (made : FileTree)
    (hMade :
      tree.makeAlong root names.dropLast = (.error e, made))
    (hAnswer : e = .nameTooLong → answer = .nameTooLong) :
    Writes tree root names content (.error answer) made
| occupied
    (made : FileTree)
    (hMade : tree.makeAlong root names.dropLast = (.ok (), made))
    (hFolder : made.node? (root ++ names) = some .folder) :
    Writes tree root names content (.error .isAFolder) made
| long
    (made : FileTree)
    (hMade : tree.makeAlong root names.dropLast = (.ok (), made)) :
    Writes tree root names content (.error .nameTooLong) made
| written
    (made : FileTree)
    (hMade : tree.makeAlong root names.dropLast = (.ok (), made)) :
    Writes tree root names content (.ok ())
      (made.put (root ++ names) (.file content))

theorem writes_write
    (tree : FileTree)
    (root names : FilePath)
    (content : ByteArray) :
    tree.Writes root names content
      (tree.write root names content).1
      (tree.write root names content).2 := by
  unfold write
  split
  case h_1 hRoot => exact .nowhere _ (by simp [hRoot])
  case h_2 hRoot => exact .nowhere _ (by simp [hRoot])
  case h_3 =>
    split
    case h_1 made hMade => exact .stopped _ _ made hMade nofun
    case h_2 e made _ hMade => exact .stopped e e made hMade id
    case h_3 made hMade =>
      split
      case h_1 hFolder => exact .occupied made hMade hFolder
      case h_2 =>
        split
        · exact .long made hMade
        · exact .written made hMade

/-
  Writing a file makes folders on the way to it and the file,
  and changes nothing else.
-/
theorem Writes.node?_cases
    {tree' : FileTree}
    {answer : Except FileError Unit}
    (hWrites : tree.Writes root names content answer tree')
    (hPlain : FilePath.IsPlain names)
    (hNonempty : names ≠ [])
    (path : FilePath) :
    tree'.node? path = tree.node? path ∨
      (∃ front, FilePath.Leads front names ∧
          path = root ++ front) ∧
        tree'.node? path = some .folder ∨
      path = root ++ names ∧
        tree'.node? path = some (.file content) := by
  have hMade
      {answer : Except FileError Unit}
      {made : FileTree}
      (hMade :
        tree.makeAlong root names.dropLast = (answer, made)) :
      made.node? path = tree.node? path ∨
        (∃ front, FilePath.Leads front names ∧
            path = root ++ front) ∧
          made.node? path = some .folder := by
    have hAlong :=
      node?_makeAlong tree root (isPlain_dropLast hPlain) path
    rw [hMade] at hAlong
    rcases hAlong with hSame | ⟨⟨front, hFront, hPath⟩, hFolder⟩
    · exact .inl hSame
    · exact .inr
        ⟨⟨front, leads_of_prefix_dropLast hNonempty hFront, hPath⟩,
          hFolder⟩
  cases hWrites with
  | nowhere => exact .inl rfl
  | stopped e answer made hAlong =>
      exact (hMade hAlong).imp_right .inl
  | occupied made hAlong => exact (hMade hAlong).imp_right .inl
  | long made hAlong => exact (hMade hAlong).imp_right .inl
  | written made hAlong =>
      rw [node?_put made (by simp [hNonempty])]
      split
      case isTrue hPath => exact .inr (.inr ⟨hPath.symm, rfl⟩)
      case isFalse => exact (hMade hAlong).imp_right .inl

------------------------------------------------------------
-- Room for an Object
------------------------------------------------------------

/-
  A tree with room for an object below a folder: no file stands
  on the way to it, and no folder in its place.
-/
structure Admits
    (tree : FileTree)
    (root names : FilePath) : Prop where
  way :
    ∀ front, FilePath.Leads front names →
      ∀ content, tree.node? (root ++ front) ≠ some (.file content)
  place : tree.node? (root ++ names) ≠ some .folder

/- Two paths neither of which leads to the other. -/
def Unshadowed (names others : FilePath) : Prop :=
  ¬ FilePath.Leads names others ∧ ¬ FilePath.Leads others names

/- A file that is written leaves room for objects it does not shadow. -/
theorem Writes.admits
    {tree' : FileTree}
    {answer : Except FileError Unit}
    (hWrites : tree.Writes root names content answer tree')
    (hPlain : FilePath.IsPlain names)
    (hNonempty : names ≠ [])
    (hApart : Unshadowed names others)
    (hAdmits : tree.Admits root others) :
    tree'.Admits root others := by
  have hCases := hWrites.node?_cases hPlain hNonempty
  constructor
  · intro front hFront other hFile
    rcases hCases (root ++ front) with
      hSame | ⟨-, hFolder⟩ | ⟨hPath, -⟩
    · exact hAdmits.way front hFront other (hSame ▸ hFile)
    · rw [hFolder] at hFile
      cases hFile
    · rw [List.append_cancel_left_eq] at hPath
      exact hApart.1 (hPath ▸ hFront)
  · intro hFolder
    rcases hCases (root ++ others) with
      hSame | ⟨⟨front, hFront, hPath⟩, -⟩ | ⟨-, hFile⟩
    · exact hAdmits.place (hSame ▸ hFolder)
    · rw [List.append_cancel_left_eq] at hPath
      exact hApart.2 (hPath ▸ hFront)
    · rw [hFile] at hFolder
      cases hFolder

/- Where there is room for an object, only its names can be too long. -/
theorem Writes.answer_of_admits
    {tree' : FileTree}
    {answer : Except FileError Unit}
    (hWrites : tree.Writes root names content answer tree')
    (hPlain : FilePath.IsPlain names)
    (hNonempty : names ≠ [])
    (hRoot : tree.node? root = some .folder)
    (hAdmits : tree.Admits root names) :
    answer = .ok () ∨ answer = .error .nameTooLong := by
  cases hWrites with
  | nowhere e hNowhere => exact absurd hRoot hNowhere
  | stopped e answer made hMade hAnswer =>
      have hError :
          (tree.makeAlong root names.dropLast).1 = .error e := by
        rw [hMade]
      rcases makeAlong_error (isPlain_dropLast hPlain) hError with
        hLong | ⟨front, content, hFront, hFile⟩
      · exact .inr (congrArg Except.error (hAnswer hLong))
      · exact absurd hFile
          (hAdmits.way front
            (leads_of_prefix_dropLast hNonempty hFront) content)
  | occupied made hMade hFolder =>
      have hAlong :=
        node?_makeAlong tree root (isPlain_dropLast hPlain)
          (root ++ names)
      rw [hMade] at hAlong
      rcases hAlong with hSame | ⟨⟨front, hFront, hPath⟩, -⟩
      · exact absurd (hSame ▸ hFolder) hAdmits.place
      · rw [List.append_cancel_left_eq] at hPath
        have hLeads := leads_of_prefix_dropLast hNonempty hFront
        exact absurd hPath.symm hLeads.2
  | long => exact .inr rfl
  | written => exact .inl rfl

/- The folder that is written below stays a folder. -/
theorem Writes.keeps_root
    {tree' : FileTree}
    {answer : Except FileError Unit}
    (hWrites : tree.Writes root names content answer tree')
    (hPlain : FilePath.IsPlain names)
    (hNonempty : names ≠ [])
    (hRoot : tree.node? root = some .folder) :
    tree'.node? root = some .folder := by
  rcases hWrites.node?_cases hPlain hNonempty root with
    hSame | ⟨-, hFolder⟩ | ⟨hPath, -⟩
  · exact hSame.trans hRoot
  · exact hFolder
  · exact absurd (List.self_eq_append_right.mp hPath) hNonempty

/- A folder with nothing in it. -/
structure IsBare (tree : FileTree) (root : FilePath) : Prop where
  folder : tree.node? root = some .folder
  nothing : ∀ names, names ≠ [] → tree.node? (root ++ names) = none

theorem IsBare.admits
    (hBare : tree.IsBare root)
    (hNonempty : names ≠ []) :
    tree.Admits root names := by
  constructor
  · intro front _ content hFile
    cases front with
    | nil =>
        rw [List.append_nil, hBare.folder] at hFile
        cases hFile
    | cons name front =>
        rw [hBare.nothing _ (List.cons_ne_nil _ _)] at hFile
        cases hFile
  · rw [hBare.nothing names hNonempty]
    exact nofun

end FileTree

------------------------------------------------------------
-- Objects in a Local Folder
------------------------------------------------------------

/- No segment of a path stays in its folder or goes up. -/
theorem ObjectPath.isPlain_segments (cs : List Char) :
    FilePath.IsPlain (ofKeyChars cs).segments := by
  have hNever
      {name ds : List Char}
      (hPlain : Percent.encode isSpecial name = name)
      (hWhole : encodeSegment name ≠ Percent.encode isSpecial name)
      (hDots :
        ∀ dots, dots = ['.'] ∨ dots = ['.', '.'] →
          encodeSegment dots ≠ name) :
      encodeSegment ds ≠ name := by
    intro hEq
    rcases encodeSegment_cases ds with rfl | rfl | hSame
    · exact hDots _ (.inl rfl) hEq
    · exact hDots _ (.inr rfl) hEq
    · rw [hSame, ← hPlain] at hEq
      have hName :=
        Percent.encode_injective isSpecial_percent hEq
      exact hWhole (hName ▸ hSame)
  intro segment hMem
  rcases List.mem_map.mp hMem with ⟨ds, -, rfl⟩
  refine ⟨hNever (by decide) (by decide) ?_,
    hNever (by decide) (by decide) ?_⟩
  · rintro dots (rfl | rfl) <;> decide
  · rintro dots (rfl | rfl) <;> decide

namespace BlobStore

variable {keyPrefix : String}
variable {root : FilePath}
variable {tree : FileTree}
variable {t u : OffsetToken}

/- The names from the folder of a store to the object of a token. -/
def namesOf (keyPrefix : String) (t : OffsetToken) : FilePath :=
  (ObjectPath.ofKey (storageKey keyPrefix t)).segments

theorem namesOf_ne_nil
    (keyPrefix : String)
    (t : OffsetToken) :
    namesOf keyPrefix t ≠ [] := by
  have hNames :=
    segments_pathOf ⟨.memory .empty, keyPrefix⟩ t
  rw [pathOf] at hNames
  simp [namesOf, hNames, OffsetToken.placeSegments]

/- No object leads to another where the topics have no slash. -/
theorem not_leads_namesOf
    (hFirst : t.key.IsFlat)
    (hSecond : u.key.IsFlat) :
    ¬ FilePath.Leads (namesOf keyPrefix t) (namesOf keyPrefix u) :=
  fun hLeads =>
    hLeads.2
      (segments_eq_of_front (s := ⟨.memory .empty, keyPrefix⟩)
        hFirst hSecond hLeads.1)

/- A folder with room for every object whose topic has no slash. -/
structure Roomy
    (keyPrefix : String)
    (root : FilePath)
    (tree : FileTree) : Prop where
  folder : tree.node? root = some .folder
  admits :
    ∀ t : OffsetToken, t.key.IsFlat →
      tree.Admits root (namesOf keyPrefix t)

theorem roomy_of_isBare
    (hBare : tree.IsBare root) :
    Roomy keyPrefix root tree :=
  ⟨hBare.folder, fun t _ => hBare.admits (namesOf_ne_nil _ t)⟩

/- A store in a local folder. -/
def inFolder
    (keyPrefix : String)
    (root : FilePath)
    (tree : FileTree) : BlobStore where
  backend := .folder root tree
  keyPrefix := keyPrefix

/- The answer to an upload, and the tree it leaves. -/
theorem upload_inFolder
    (keyPrefix : String)
    (root : FilePath)
    (tree : FileTree)
    (f : Fragment) :
    ∃ answer tree',
      (tree.Writes root (namesOf keyPrefix f.token) f.payload
          answer tree' ∨
        answer = .error .nameTooLong ∧ tree' = tree) ∧
      (inFolder keyPrefix root tree).upload f =
        (answer.mapError fun e =>
            .upload (storageKey keyPrefix f.token) e.message,
          inFolder keyPrefix root tree') := by
  have hUpload :
      (inFolder keyPrefix root tree).upload f =
        ((writeFile root tree
              (.ofKey (storageKey keyPrefix f.token))
              f.payload).1.mapError fun e =>
            .upload (storageKey keyPrefix f.token) e.message,
          inFolder keyPrefix root
            (writeFile root tree
              (.ofKey (storageKey keyPrefix f.token))
              f.payload).2) := by
    simp only [BlobStore.upload, inFolder, pathOf]
    rcases writeFile root tree
        (.ofKey (storageKey keyPrefix f.token)) f.payload with
      ⟨e | ⟨⟩, tree'⟩ <;> rfl
  refine ⟨_, _, ?_, hUpload⟩
  unfold writeFile
  split
  · exact .inr ⟨rfl, rfl⟩
  · exact .inl (tree.writes_write root _ f.payload)

/-
  An upload to a folder with room for every object leaves such
  a folder, and refuses nothing but too long a name.
-/
theorem Roomy.upload
    {f : Fragment}
    (hRoomy : Roomy keyPrefix root tree)
    (hFlat : f.partitionKey.IsFlat) :
    ∃ answer tree',
      (inFolder keyPrefix root tree).upload f =
          (answer, inFolder keyPrefix root tree') ∧
        Roomy keyPrefix root tree' ∧
        (answer = .ok () ∨
          answer =
            .error
              (.upload (storageKey keyPrefix f.token)
                FileError.nameTooLong.message)) := by
  rcases upload_inFolder keyPrefix root tree f with
    ⟨answer, tree', hWrites | ⟨rfl, rfl⟩, hUpload⟩
  · have hPlain :
        FilePath.IsPlain (namesOf keyPrefix f.token) :=
      ObjectPath.isPlain_segments _
    have hNonempty := namesOf_ne_nil keyPrefix f.token
    refine ⟨_, tree', hUpload, ⟨?_, ?_⟩, ?_⟩
    · exact hWrites.keeps_root hPlain hNonempty hRoomy.folder
    · intro t hOther
      exact hWrites.admits hPlain hNonempty
        ⟨not_leads_namesOf hFlat hOther,
          not_leads_namesOf hOther hFlat⟩
        (hRoomy.admits t hOther)
    · rcases hWrites.answer_of_admits hPlain hNonempty
          hRoomy.folder (hRoomy.admits f.token hFlat) with
        rfl | rfl
      · exact .inl rfl
      · exact .inr rfl
  · exact ⟨_, _, hUpload, hRoomy, .inr rfl⟩

/- So do any uploads to it. -/
theorem Roomy.uploadAll
    {fs : List Fragment}
    (hRoomy : Roomy keyPrefix root tree)
    (hFlat : ∀ f ∈ fs, f.partitionKey.IsFlat) :
    ∃ tree',
      (inFolder keyPrefix root tree).uploadAll fs =
          inFolder keyPrefix root tree' ∧
        Roomy keyPrefix root tree' := by
  induction fs generalizing tree with
  | nil => exact ⟨tree, rfl, hRoomy⟩
  | cons f fs ih =>
      rw [List.forall_mem_cons] at hFlat
      rcases hRoomy.upload hFlat.1 with
        ⟨answer, tree', hUpload, hKept, -⟩
      rcases ih hKept hFlat.2 with ⟨tree'', hUploads, hRest⟩
      refine ⟨tree'', ?_, hRest⟩
      rw [← hUploads, BlobStore.uploadAll, List.foldl_cons, hUpload]
      rfl

/-
  Under a prefix, fragments are kept apart.  Keys determine
  their tokens, and so do written paths where no part of a
  topic is empty.  Where topics have no slash, no path leads to
  another, and in a local folder that was empty at first no
  upload ever meets a file on its way or a folder in its place.
-/
structure KeepsApart (keyPrefix : String) : Prop where
  keys : Function.Injective (storageKey keyPrefix)
  paths :
    ∀ t u : OffsetToken, t.key.IsNamed → u.key.IsNamed →
      (ObjectPath.ofKey (storageKey keyPrefix t)).text =
          (ObjectPath.ofKey (storageKey keyPrefix u)).text →
        t = u
  unshadowed :
    ∀ t u : OffsetToken, t.key.IsFlat → u.key.IsFlat →
      ¬ FilePath.Leads (namesOf keyPrefix t) (namesOf keyPrefix u)
  folders :
    ∀ root tree fs, FileTree.IsBare tree root →
      (∀ f ∈ fs, f.partitionKey.IsFlat) →
        ∃ tree',
          (inFolder keyPrefix root tree).uploadAll fs =
              inFolder keyPrefix root tree' ∧
            Roomy keyPrefix root tree' ∧
            ∀ f : Fragment, f.partitionKey.IsFlat →
              ((inFolder keyPrefix root tree').upload f).1 =
                  .ok () ∨
                ((inFolder keyPrefix root tree').upload f).1 =
                  .error
                    (.upload (storageKey keyPrefix f.token)
                      FileError.nameTooLong.message)

/- Distinct fragments never share or shadow an object, under any prefix. -/
theorem keepsApart (keyPrefix : String) : KeepsApart keyPrefix := by
  refine ⟨storageKey_injective keyPrefix, ?_, ?_, ?_⟩
  · intro t u hFirst hSecond hEq
    have hPaths :=
      pathOf_eq_of_text_eq (s := inMemory keyPrefix) hEq
    exact eq_of_pathOf_eq hFirst hSecond hPaths
  · exact fun t u => not_leads_namesOf
  · intro root tree fs hBare hFlat
    rcases (roomy_of_isBare hBare).uploadAll hFlat with
      ⟨tree', hUploads, hRoomy⟩
    refine ⟨tree', hUploads, hRoomy, fun f hNext => ?_⟩
    rcases hRoomy.upload hNext with
      ⟨answer, tree'', hUpload, -, hAnswer⟩
    rw [hUpload]
    exact hAnswer

end BlobStore

end FragmentSink
