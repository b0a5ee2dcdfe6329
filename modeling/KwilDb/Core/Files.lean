import KwilDb.Core.Types

/-! # The file system

The files the modelled code reads and writes, as `os.Stat`, `os.ReadFile` and `os.WriteFile` see
them: an entry per path, and the failures (permissions, a full disk) that the entries do not show.
`os.Create` truncates as `os.WriteFile` does, so it is `writeFile` with no contents.

`FileSys` takes each path string as the canonical name of one file: two different strings name two
different files, and there are no aliases such as `./f` for `f`, symbolic links or hard links. A
write to one path therefore changes no other path's entry, and every frame statement over
`FileSys` (such as `buildJRPCAdminServer_file_writes`) holds only for paths that name their file
in this one way. -/

namespace KwilDb

/-- What `os.Stat` finds at a path. -/
inductive FileEntry where
  | file (contents : Bytes)
  | dir
  deriving DecidableEq, Repr

/-- A file system: the entry at each path, `none` where `os.Stat` fails. -/
structure FileSys where
  entries : String → Option FileEntry

/-- The file system after `path` is written with `contents`. -/
def FileSys.write (fs : FileSys) (path : String) (contents : Bytes) : FileSys :=
  ⟨fun p => if p = path then some (.file contents) else fs.entries p⟩

/-- The contents of the file at `path`; empty where there is no file. -/
def FileSys.contents (fs : FileSys) (path : String) : Bytes :=
  match fs.entries path with
  | some (.file contents) => contents
  | _ => []

@[simp] theorem FileSys.write_entries (fs : FileSys) (path p : String) (contents : Bytes) :
    (fs.write path contents).entries p = if p = path then some (.file contents) else fs.entries p :=
  rfl

@[simp] theorem FileSys.write_contents (fs : FileSys) (path : String) (contents : Bytes) :
    (fs.write path contents).contents path = contents := by
  simp [FileSys.contents]

/-- The failures of file reads and writes beyond what `FileSys` shows (permissions, a full
disk), and the error of a read or write on a path whose entry does not allow it. -/
structure FileFaults where
  read : String → Option Error
  write : String → Option Error
  wrongEntry : String → Error

/-- `os.ReadFile`. -/
def readFile (faults : FileFaults) (fs : FileSys) (path : String) : Except Error Bytes :=
  match faults.read path with
  | some e => .error e
  | none =>
    match fs.entries path with
    | some (.file contents) => .ok contents
    | _ => .error (faults.wrongEntry path)

/-- `os.WriteFile`, which fails on a directory. -/
def writeFile (faults : FileFaults) (fs : FileSys) (path : String) (contents : Bytes) :
    Except Error FileSys :=
  match faults.write path with
  | some e => .error e
  | none =>
    match fs.entries path with
    | some .dir => .error (faults.wrongEntry path)
    | _ => .ok (fs.write path contents)

theorem readFile_ok {faults : FileFaults} {fs : FileSys} {path : String} {contents : Bytes}
    (h : readFile faults fs path = .ok contents) : fs.contents path = contents := by
  unfold readFile at h
  unfold FileSys.contents
  split at h
  · cases h
  · split at h <;> simp_all

theorem writeFile_ok {faults : FileFaults} {fs fs' : FileSys} {path : String} {contents : Bytes}
    (h : writeFile faults fs path contents = .ok fs') : fs' = fs.write path contents := by
  unfold writeFile at h
  split at h
  · cases h
  · split at h <;> simp_all

end KwilDb
