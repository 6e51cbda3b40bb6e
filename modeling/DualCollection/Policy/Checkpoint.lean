import DualCollection.Bytes.Endian
import DualCollection.Control.Exception

/-!
# The digest of a checkpoint

`checkpoint_tree_sha256` of `dagger/checkpoint.py` feeds the files of a directory to the hash, one
after the other in the order of their paths, each with the lengths of its path and of its content.
`CheckpointFile.encode` is what is fed for a file.  It is self-delimiting, so that the files can be
read back from the stream (`checkpointTreeStream_law`).

The hash itself is not part of the source.  A name that is not UTF-8 makes `encode` raise: the paths
here are those of which this is not so.
-/

namespace DualCollection

/-- What a directory entry is. -/
inductive EntryKind
  | directory
  | file (content : List UInt8)
  | symlink
  /-- A socket, a device. -/
  | other
  deriving DecidableEq

/-- An entry below the directory, with its path relative to it, in POSIX notation. -/
structure TreeEntry where
  /-- `path.relative_to(root).as_posix()` -/
  relative : String
  /-- What it is. -/
  kind : EntryKind
  deriving DecidableEq

namespace TreeEntry

/-- `path.is_file()`, with the path and the content. -/
def file? (e : TreeEntry) : Option (String × List UInt8) :=
  match e.kind with
  | .file content => some (e.relative, content)
  | _ => none

/-- The order of the entries. -/
def le (a b : TreeEntry) : Bool := a.relative ≤ b.relative

end TreeEntry

/-- `sorted(root.rglob("*"), key=...)`: the entries in the order of their paths. -/
def sortedEntries (listing : List TreeEntry) : List TreeEntry := listing.mergeSort TreeEntry.le

/-- The files, in that order. -/
def sortedFiles (listing : List TreeEntry) : List (String × List UInt8) :=
  (sortedEntries listing).filterMap TreeEntry.file?

/-- `_DIGEST_DOMAIN` -/
def digestDomain : List UInt8 := "ARX5_CHECKPOINT_TREE_SHA256_V1\x00".toByteArray.data.toList

/-- `encode("utf-8")` -/
def utf8 (s : String) : List UInt8 := s.toByteArray.data.toList

/-- `n.to_bytes(8, "big")` -/
def toBytesBig (n : ℕ) : Except String (List UInt8) :=
  if n < 256 ^ 8 then .ok (Bytes.beBytes 8 n) else .error "OverflowError: int too big to convert"

/-- The loop that reads a file: what `stream.read(n)` returns until the end. -/
def readChunks (n : ℕ) (content : List UInt8) : List (List UInt8) :=
  if content.take n = [] then [] else content.take n :: readChunks n (content.drop n)
termination_by content.length
decreasing_by
  rename_i h
  have hpos : 0 < (content.take n).length := List.length_pos_iff.2 h
  rw [List.length_take] at hpos
  rw [List.length_drop]
  omega

/-- What is fed for a file: the arguments of the `update`s, one after the other. -/
def fileUpdates (file : String × List UInt8) : Except String (List UInt8) := do
  let relative := utf8 file.1
  let pathLength ← toBytesBig relative.length
  let size ← toBytesBig file.2.length
  return pathLength ++ relative ++ size ++ (readChunks (8 * 1024 * 1024) file.2).flatten

/-- What is fed for the files. -/
def feed (files : List (String × List UInt8)) : Except String (List UInt8) := do
  let updates ← files.mapM fileUpdates
  return updates.flatten

/-- What is fed for the sorted entries. -/
def streamEntries (entries : List TreeEntry) : Except String (List UInt8) := do
  require (∀ e ∈ entries, e.kind ≠ .symlink) "checkpoint must not contain symbolic links"
  let files := entries.filterMap TreeEntry.file?
  require (files ≠ []) "checkpoint directory contains no files"
  let updates ← feed files
  return digestDomain ++ updates

/-- What `checkpoint_tree_sha256` feeds to the hash; `none` is no directory. -/
def checkpointTreeStream (root : Option (List TreeEntry)) : Except String (List UInt8) :=
  match root with
  | none => .error "checkpoint is not a directory"
  | some listing => streamEntries (sortedEntries listing)

/-! ### Frames -/

/-- A file whose lengths have room in a frame. -/
structure CheckpointFile where
  /-- The path. -/
  path : String
  /-- The content. -/
  content : List UInt8
  /-- The path has room. -/
  path_lt : (utf8 path).length < 256 ^ 8
  /-- The content has room. -/
  content_lt : content.length < 256 ^ 8

namespace CheckpointFile

/-- The path and the content. -/
def entry (f : CheckpointFile) : String × List UInt8 := (f.path, f.content)

/-- The frame of a file. -/
def encode (f : CheckpointFile) : List UInt8 :=
  Bytes.beBytes 8 (utf8 f.path).length ++ utf8 f.path ++ Bytes.beBytes 8 f.content.length ++
    f.content

theorem ext_entry {f g : CheckpointFile} (h : f.entry = g.entry) : f = g := by
  obtain ⟨path, content, _, _⟩ := f
  obtain ⟨path', content', _, _⟩ := g
  obtain ⟨rfl, rfl⟩ := Prod.mk.inj h
  rfl

theorem encode_ne_nil (f : CheckpointFile) : f.encode ≠ [] := by
  intro h
  have hlength := congrArg List.length h
  simp only [encode, List.length_append, Bytes.length_beBytes, List.length_nil] at hlength
  omega

end CheckpointFile

theorem utf8_injective : Function.Injective utf8 := by
  intro a b h
  have hdata := Array.toList_inj.1 h
  exact String.toByteArray_inj.1 (ByteArray.ext hdata)

/-- A frame says where it ends. -/
theorem CheckpointFile.encode_selfDelimiting : Bytes.SelfDelimiting CheckpointFile.encode := by
  intro f g x y h
  simp only [encode, List.append_assoc] at h
  obtain ⟨hpath, h⟩ := Bytes.beBytes_append f.path_lt g.path_lt h
  obtain ⟨hrelative, h⟩ := List.append_inj h hpath
  obtain ⟨hsize, h⟩ := Bytes.beBytes_append f.content_lt g.content_lt h
  obtain ⟨hcontent, hrest⟩ := List.append_inj h hsize
  exact ⟨ext_entry (Prod.ext (utf8_injective hrelative) hcontent), hrest⟩

/-- The chunks of a file are its content. -/
theorem readChunks_flatten {n : ℕ} (hn : 0 < n) (content : List UInt8) :
    (readChunks n content).flatten = content := by
  induction content using readChunks.induct n with
  | case1 content h =>
    have hnil : content = [] := by
      cases content with
      | nil => rfl
      | cons b bs =>
        obtain ⟨m, rfl⟩ := Nat.exists_eq_succ_of_ne_zero hn.ne'
        simp at h
    rw [readChunks, if_pos h, hnil]
    rfl
  | case2 content h ih =>
    rw [readChunks, if_neg h, List.flatten_cons, ih, List.take_append_drop]

theorem toBytesBig_of {n : ℕ} (h : n < 256 ^ 8) : toBytesBig n = .ok (Bytes.beBytes 8 n) := if_pos h

theorem toBytesBig_ok {n : ℕ} {bytes : List UInt8} (h : toBytesBig n = .ok bytes) :
    n < 256 ^ 8 ∧ bytes = Bytes.beBytes 8 n := by
  unfold toBytesBig at h
  split_ifs at h with hn
  cases h
  exact ⟨hn, rfl⟩

/-- What is fed for a file is its frame. -/
theorem fileUpdates_ok {file : String × List UInt8} {bytes : List UInt8}
    (h : fileUpdates file = .ok bytes) :
    ∃ f : CheckpointFile, f.entry = file ∧ bytes = f.encode := by
  obtain ⟨pathLength, hpath, h⟩ := bind_eq_ok h
  obtain ⟨size, hsize, h⟩ := bind_eq_ok h
  obtain ⟨hpath_lt, rfl⟩ := toBytesBig_ok hpath
  obtain ⟨hsize_lt, rfl⟩ := toBytesBig_ok hsize
  cases h
  refine ⟨⟨file.1, file.2, hpath_lt, hsize_lt⟩, rfl, ?_⟩
  rw [readChunks_flatten (by norm_num)]
  rfl

theorem CheckpointFile.fileUpdates (f : CheckpointFile) :
    fileUpdates f.entry = .ok f.encode := by
  unfold DualCollection.fileUpdates
  simp only [entry, toBytesBig_of f.path_lt, toBytesBig_of f.content_lt,
    readChunks_flatten (show 0 < 8 * 1024 * 1024 by norm_num)]
  rfl

/-- What is fed for the files are their frames. -/
theorem feed_ok {files : List (String × List UInt8)} {bytes : List UInt8}
    (h : feed files = .ok bytes) :
    ∃ fs : List CheckpointFile, fs.map CheckpointFile.entry = files ∧
      bytes = fs.flatMap CheckpointFile.encode := by
  obtain ⟨updates, hmap, h⟩ := bind_eq_ok h
  cases h
  clear * - hmap
  induction files generalizing updates with
  | nil =>
    cases hmap
    exact ⟨[], rfl, rfl⟩
  | cons file files ih =>
    rw [List.mapM_cons] at hmap
    obtain ⟨bytes, hfile, hmap⟩ := bind_eq_ok hmap
    obtain ⟨rest, hrest, hmap⟩ := bind_eq_ok hmap
    cases hmap
    obtain ⟨f, hf, rfl⟩ := fileUpdates_ok hfile
    obtain ⟨fs, hfs, hflat⟩ := ih rest hrest
    refine ⟨f :: fs, by rw [List.map_cons, hf, hfs], ?_⟩
    rw [List.flatten_cons, hflat, List.flatMap_cons]

/-- Files that fit are fed. -/
theorem feed_frames (fs : List CheckpointFile) :
    feed (fs.map CheckpointFile.entry) = .ok (fs.flatMap CheckpointFile.encode) := by
  have hmap : (fs.map CheckpointFile.entry).mapM fileUpdates =
      .ok (fs.map CheckpointFile.encode) := by
    induction fs with
    | nil => rfl
    | cons f fs ih =>
      rw [List.map_cons, List.mapM_cons, f.fileUpdates, ih]
      rfl
  rw [feed, hmap, List.flatMap]
  rfl

/-- The files can be read back from what is fed. -/
theorem feed_injective {files files' : List (String × List UInt8)} {bytes : List UInt8}
    (h : feed files = .ok bytes) (h' : feed files' = .ok bytes) : files = files' := by
  obtain ⟨fs, rfl, rfl⟩ := feed_ok h
  obtain ⟨fs', rfl, heq⟩ := feed_ok h'
  have hinj := CheckpointFile.encode_selfDelimiting.flatMap_injective CheckpointFile.encode_ne_nil
  rw [hinj heq]

/-! ### Trees -/

/-- A directory with its entries, in the order in which the file system lists them. -/
structure CheckpointTree where
  /-- The entries. -/
  entries : List TreeEntry
  /-- A path is listed once. -/
  nodup : (entries.map TreeEntry.relative).Nodup

/-- A tree of at least one file and without a symbolic link, whose lengths fit. -/
structure CheckpointTree.Fits (tree : CheckpointTree) : Prop where
  /-- No entry is a symbolic link. -/
  noSymlink : ∀ e ∈ tree.entries, e.kind ≠ .symlink
  /-- There is a file. -/
  someFile : ∃ e ∈ tree.entries, e.file?.isSome
  /-- Paths and contents are shorter than `2 ^ 64`. -/
  lengths : ∀ e ∈ tree.entries, ∀ file ∈ e.file?,
    (utf8 file.1).length < 2 ^ 64 ∧ file.2.length < 2 ^ 64

theorem mem_sortedEntries {listing : List TreeEntry} {e : TreeEntry} :
    e ∈ sortedEntries listing ↔ e ∈ listing :=
  (List.mergeSort_perm listing TreeEntry.le).mem_iff

theorem mem_sortedFiles {listing : List TreeEntry} {file : String × List UInt8} :
    file ∈ sortedFiles listing ↔ ∃ e ∈ listing, e.file? = some file := by
  simp only [sortedFiles, List.mem_filterMap, mem_sortedEntries]

/-- The entries are sorted in the same way, however they are listed. -/
theorem CheckpointTree.sortedEntries_perm (tree : CheckpointTree) {listing : List TreeEntry}
    (h : listing.Perm tree.entries) : sortedEntries listing = sortedEntries tree.entries := by
  have htrans : ∀ a b c : TreeEntry, TreeEntry.le a b → TreeEntry.le b c → TreeEntry.le a c := by
    intro a b c hab hbc
    simp only [TreeEntry.le, decide_eq_true_eq] at hab hbc ⊢
    exact hab.trans hbc
  have htotal : ∀ a b : TreeEntry, (TreeEntry.le a b || TreeEntry.le b a) = true := by
    intro a b
    simpa [TreeEntry.le] using le_total a.relative b.relative
  refine List.Perm.eq_of_pairwise ?_ (List.pairwise_mergeSort htrans htotal listing)
    (List.pairwise_mergeSort htrans htotal tree.entries)
    (((List.mergeSort_perm _ _).trans h).trans (List.mergeSort_perm _ _).symm)
  -- two entries with one path are one entry
  intro a b ha hb hab hba
  simp only [TreeEntry.le, decide_eq_true_eq] at hab hba
  have ha : a ∈ tree.entries := h.mem_iff.1 (mem_sortedEntries.1 ha)
  have hb : b ∈ tree.entries := mem_sortedEntries.1 hb
  exact List.inj_on_of_nodup_map tree.nodup ha hb (le_antisymm hab hba)

theorem checkpointTreeStream_ok {listing : List TreeEntry} {bytes : List UInt8}
    (h : checkpointTreeStream (some listing) = .ok bytes) :
    ∃ updates, feed (sortedFiles listing) = .ok updates ∧ bytes = digestDomain ++ updates := by
  obtain ⟨-, -, h⟩ := bind_eq_ok h
  obtain ⟨-, -, h⟩ := bind_eq_ok h
  obtain ⟨updates, hupdates, h⟩ := bind_eq_ok h
  cases h
  exact ⟨updates, hupdates, rfl⟩

/-- A tree that fits has a stream. -/
theorem CheckpointTree.Fits.stream {tree : CheckpointTree} (h : tree.Fits) :
    ∃ bytes, checkpointTreeStream (some tree.entries) = .ok bytes := by
  have hsymlink : ∀ e ∈ sortedEntries tree.entries, e.kind ≠ .symlink := fun e he =>
    h.noSymlink e (mem_sortedEntries.1 he)
  have hfiles : sortedFiles tree.entries ≠ [] := by
    obtain ⟨e, he, hsome⟩ := h.someFile
    obtain ⟨file, hfile⟩ := Option.isSome_iff_exists.1 hsome
    exact List.ne_nil_of_mem (mem_sortedFiles.2 ⟨e, he, hfile⟩)
  have hfs : ∃ fs : List CheckpointFile, fs.map CheckpointFile.entry = sortedFiles tree.entries := by
    have hlift : ∀ file ∈ sortedFiles tree.entries, ∃ f : CheckpointFile, f.entry = file := by
      intro file hfile
      obtain ⟨e, he, hfile⟩ := mem_sortedFiles.1 hfile
      obtain ⟨hpath, hcontent⟩ := h.lengths e he file hfile
      exact ⟨⟨file.1, file.2, by norm_num at hpath ⊢; exact hpath,
        by norm_num at hcontent ⊢; exact hcontent⟩, rfl⟩
    rw [← Set.mem_range, Set.range_list_map]
    exact hlift
  obtain ⟨fs, hfs⟩ := hfs
  refine ⟨digestDomain ++ fs.flatMap CheckpointFile.encode, ?_⟩
  rw [sortedFiles] at hfs hfiles
  simp only [checkpointTreeStream, streamEntries, require_ok.2 hsymlink, require_ok.2 hfiles, bind,
    Except.bind]
  rw [← hfs, feed_frames]
  rfl

/-- The stream of a tree determines its files, and does not depend on how they are listed. -/
theorem checkpointTreeStream_law {tree tree' : CheckpointTree} (h : tree.Fits) (h' : tree'.Fits) :
    (∃ bytes, checkpointTreeStream (some tree.entries) = .ok bytes) ∧
      (checkpointTreeStream (some tree.entries) = checkpointTreeStream (some tree'.entries) →
        sortedFiles tree.entries = sortedFiles tree'.entries) ∧
      ∀ listing : List TreeEntry, listing.Perm tree.entries →
        checkpointTreeStream (some listing) = checkpointTreeStream (some tree.entries) := by
  refine ⟨h.stream, fun heq => ?_, fun listing hperm => ?_⟩
  · obtain ⟨bytes, hbytes⟩ := h'.stream
    obtain ⟨updates, hfeed, hdomain⟩ := checkpointTreeStream_ok (heq.trans hbytes)
    obtain ⟨updates', hfeed', hdomain'⟩ := checkpointTreeStream_ok hbytes
    obtain rfl : updates = updates' :=
      List.append_cancel_left (hdomain.symm.trans hdomain')
    exact feed_injective hfeed hfeed'
  · exact congrArg streamEntries (tree.sortedEntries_perm hperm)

/-! ### A checkpoint -/

namespace Checkpoint.Station

/-- A directory with two files. -/
def tree : CheckpointTree where
  entries := [⟨"params", .directory⟩, ⟨"params/b", .file [1]⟩, ⟨"a", .file [2, 3]⟩]
  nodup := by decide

theorem tree_fits : tree.Fits where
  noSymlink := by decide
  someFile := ⟨⟨"a", .file [2, 3]⟩, by decide, rfl⟩
  lengths := by decide

end Checkpoint.Station

/-- The files of a checkpoint are not changed by how they are listed. -/
theorem checkpointTreeStream_reverse :
    checkpointTreeStream (some Checkpoint.Station.tree.entries.reverse) =
      checkpointTreeStream (some Checkpoint.Station.tree.entries) :=
  (checkpointTreeStream_law Checkpoint.Station.tree_fits Checkpoint.Station.tree_fits).2.2 _
    (List.reverse_perm _)

end DualCollection
