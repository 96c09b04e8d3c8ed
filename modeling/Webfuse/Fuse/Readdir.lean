/-
# Directory listings

`fs_readdir` of `src/webfuse/fuse.cpp` hands the names of a directory to FUSE.  It
adds `.` and `..` itself, since a provider is not to send them; the filesystem of
`webfuse_provider` sends every name that `readdir` returns.

A listing is followed through all of its layers: what the system enumerates, what the
provider encodes, what the service decodes and what FUSE is handed.  The names that
arrive are as many as the directory has modulo `2^32`, and two more are handed on, so
the listing never has the names of the directory once each (`listing_never_once`).
-/

import Webfuse.Client.Answered
import Webfuse.Util.Text
import Webfuse.Wire.Transparency

namespace Webfuse

open Basis MessageWriter Service

variable {σ : Type}

/-- `fs_readdir`: its result and the names that are handed to the filler. -/
def fsReaddir (fs : FilesystemI σ) (path : Bytes) : Fs σ (Int32 × List Bytes) := do
  let (result, names) ← fs.readdir path []
  return (result, if 0 = result then ascii "." :: ascii ".." :: names.map cStr else [])

/-- A listing succeeded and has the given names once each. -/
def ListsOnce (names : List Bytes) (r : EStateM.Result Exn σ (Int32 × List Bytes)) : Prop :=
  ∃ handed s, r = .ok (0, handed) s ∧ handed.Nodup ∧ ∀ name, name ∈ handed ↔ name ∈ names

/-- What `push_back` of every name leaves. -/
theorem foldl_push_back (names entries : List Bytes) :
    names.foldl (fun entries name => entries ++ [name]) entries = entries ++ names := by
  induction names generalizing entries with
  | nil => rw [List.foldl_nil, List.append_nil]
  | cons name names ih => rw [List.foldl_cons, ih, List.append_assoc, List.singleton_append]

/-- The provider's filesystem lists what the system enumerates. -/
theorem ProviderMain.readdir_of_some (sys : Sys σ) (basePath : Bytes) {path : Bytes} {s : σ}
    {names : List Bytes}
    (h : (sys.listdir (cStr (getFullPath basePath path)) s).1 = some names) :
    readdir sys basePath path [] s =
      .ok (0, names) (sys.listdir (cStr (getFullPath basePath path)) s).2 := by
  have hcall : sysCall (sys.listdir (cStr (getFullPath basePath path))) s =
      .ok (some names) (sys.listdir (cStr (getFullPath basePath path)) s).2 := by
    unfold sysCall
    rw [h]
  have hnames := foldl_push_back names []
  rw [List.nil_append] at hnames
  unfold readdir
  rw [bind_of_ok hcall]
  exact congrArg (fun entries => EStateM.Result.ok (0, entries) _) hnames

/-- Of the names a provider lists, as many arrive as their count modulo `2^32`. -/
theorem readdir_loopback (p : Provider σ) (id : UInt32) (path : Bytes) {s s' : σ}
    {names : List Bytes} (h : p.fs.readdir (clip path) [] s = .ok (0, names) s') :
    (filesystem (loopback p id)).readdir path [] s =
      .ok (0, (names.take (names.length % 2 ^ 32)).map clip) s' := by
  have hsplit : bytesOfStrings names =
      (bytesOfU32 (UInt32.ofNat names.length) ++
        (names.take (names.length % 2 ^ 32)).flatMap bytesOfData) ++
        (names.drop (names.length % 2 ^ 32)).flatMap bytesOfData := by
    rw [bytesOfStrings, List.append_assoc, ← List.flatMap_append, List.take_append_drop]
  have hdata := writeOutput_data (Provider.responseHeader .readdir id) writeStrings bytesOfStrings
    writeStrings_data 0 names
  rw [if_pos rfl, hsplit, ← List.append_assoc (bytesOfU32 _), ← List.append_assoc] at hdata
  have hread := reads_resultThen 0 fun _ => reads_readStrings_take names
  rw [if_pos rfl] at hread
  exact call_loopback_append p id (.readdir path) (by simp [FsCall.requestType])
    (bind_pure_of_ok h _) hdata hread [] rfl (EmptyFilesystem.readdir path)

/-- **A listing never has the names of a directory once each.**  Whatever the system,
the base path, the state and the directory, as long as the system enumerates every
name once. -/
theorem listing_never_once (sys : Sys σ) (basePath token : Bytes) (uninitialized : σ → Stat)
    (beyond : ℕ → UInt8) (id : UInt32) (path : Bytes) (s : σ) {names : List Bytes}
    (hlist : (sys.listdir (cStr (ProviderMain.getFullPath basePath (clip path))) s).1 = some names)
    (hnodup : names.Nodup) :
    ¬ ListsOnce names (fsReaddir (filesystem (loopback
      (ProviderMain.provider sys basePath token uninitialized beyond) id)) path s) := by
  have hremote := readdir_loopback (ProviderMain.provider sys basePath token uninitialized beyond)
    id path (ProviderMain.readdir_of_some sys basePath hlist)
  have hrun := bind_pure_of_ok hremote fun r =>
    (r.1, if 0 = r.1 then ascii "." :: ascii ".." :: r.2.map cStr else [])
  rintro ⟨handed, s', heq, hhanded, hmem⟩
  have hsame := hrun.symm.trans heq
  injection hsame with hsame
  injection hsame with _ hsame
  -- two lists without duplicates and with the same elements are of one length
  have hlen := ((List.perm_ext_iff_of_nodup hhanded hnodup).2 hmem).length_eq
  rw [← hsame, if_pos rfl, List.length_cons, List.length_cons, List.length_map, List.length_map,
    List.length_take] at hlen
  omega

/-- A system with one directory, in which there is nothing. -/
def Sys.emptyDirectory : Sys Unit :=
  { Sys.failing Unit with listdir := fun _ => pure (some [ascii ".", ascii ".."]) }

theorem listing_never_once_empty :
    ¬ ListsOnce [ascii ".", ascii ".."] (fsReaddir (filesystem (loopback
      (ProviderMain.provider Sys.emptyDirectory (ascii "/b") [] (fun _ => default) fun _ => 0) 1))
      (ascii "/") ()) :=
  listing_never_once Sys.emptyDirectory (ascii "/b") [] (fun _ => default) (fun _ => 0) 1
    (ascii "/") () rfl (by decide)

/-- The two names of an empty directory are handed on twice. -/
theorem listing_has_duplicates :
    [ascii ".", ascii ".."].Nodup ∧
    fsReaddir (filesystem (loopback
        (ProviderMain.provider Sys.emptyDirectory (ascii "/b") [] (fun _ => default) fun _ => 0) 1))
        (ascii "/") () =
      .ok (0, [ascii ".", ascii "..", ascii ".", ascii ".."]) () ∧
    ¬ [ascii ".", ascii "..", ascii ".", ascii ".."].Nodup := by
  refine ⟨by decide, ?_, by decide⟩
  have hremote := readdir_loopback
    (ProviderMain.provider Sys.emptyDirectory (ascii "/b") [] (fun _ => default) fun _ => 0) 1
    (ascii "/") (s := ()) (ProviderMain.readdir_of_some Sys.emptyDirectory (ascii "/b") rfl)
  exact bind_pure_of_ok hremote _

end Webfuse
