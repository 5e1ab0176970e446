import OpenDocs.Proofs.Disk.Places
import OpenDocs.Proofs.Tabs.Opening
import OpenDocs.Tabs.Editor

/-!
# A new buffer has the text of its file

A file is read by the path as given and kept under the normal form. Both lead to one file unless the
path begins with a tilde: the normal form leads to the home that this stands for, but the file is
read in a directory that is called like it.
-/

namespace OpenDocs.Tabs

open Workspace

variable {d : Disk} {w w' : Workspace} {t : Tab}

theorem Editor.resolve_of_read {path : Disk.Path} (has : t.path = some path)
    (read : d.readText path none "strict" = .ok t.text) {identifier : String} (e : Editor)
    (got : e.workspace.get d identifier = .ok t) :
    e.resolve d identifier = .ok (t.snapshot t.title t.text) := by
  have found : e.textOf d t = .ok t.text := by
    rw [textOf, has]
    split
    · rfl
    · rfl
    · next same =>
      obtain rfl := Option.some.inj same
      rw [read]
  rw [resolve, got]
  change (do pure (t.snapshot t.title (← e.textOf d t)) : Except Failure Snapshot) = _
  rw [found]
  rfl

/-- A tab that a file was opened in is kept under the normal form, but holds the text of the file that
the path leads to as given. These are one place unless the path begins with a tilde. Where they are,
the answer for the tab is the same from either source, if its path is not too long to be looked
up. -/
theorem openFile_text (d : Disk) (sound : d.Sound) (w w' : Workspace) (p : Disk.Path) (t : Tab)
    (opened : w.openFile d p = .ok (t, w')) (new : t ∉ w.tabs) :
    ∃ path place bytes, t.path = some path ∧ d.normalize p = .ok path ∧
      d.resolve p = .ok place ∧ d.lookup place.names = some (.file bytes) ∧
      Encoding.textOf bytes none "strict" = .ok t.text ∧
      (p.isTilded = false → path = place) ∧
      (path = place → Encoding.Utf8.size path.text < 4096 →
        d.readText path none "strict" = .ok t.text ∧
        ∀ identifier, w'.get d identifier = .ok t → ∀ source proposals,
          (⟨w', source, proposals⟩ : Editor).resolve d identifier =
            .ok (t.snapshot t.title t.text)) := by
  rcases openFile_eq_ok_iff.mp opened with ⟨found, _⟩ | ⟨_, text, read, created⟩
  · exact absurd (mem_tabs_of_findByPath found).1 new
  · have made := opened_of_create created
    have kept : t.text = text := made.text
    rw [← kept] at read
    obtain ⟨bytes, raw, decoded⟩ := Disk.readText_eq_ok_iff.mp read
    obtain ⟨path, normal, has⟩ := made.exists_path rfl
    obtain ⟨r, expanded, resolved⟩ := Disk.normalize_eq_ok_iff.mp normal
    obtain ⟨place, settled⟩ := Disk.exists_resolve raw
    obtain ⟨held, again⟩ := sound.readBytes_resolve raw settled
    refine ⟨path, place, bytes, has, normal, settled, held, decoded, fun plain => ?_,
      fun same short => ?_⟩
    · rw [Disk.expandHome_of_not_isTilded plain] at expanded
      obtain rfl := Except.ok.inj expanded
      exact Except.ok.inj (resolved.symm.trans settled)
    subst same
    have reread : d.readText path none "strict" = .ok t.text :=
      Disk.readText_eq_ok_iff.mpr ⟨bytes, again short, decoded⟩
    refine ⟨reread, fun identifier got source proposals => ?_⟩
    exact Editor.resolve_of_read has reread _ got

/-- A relative path with a step up, into a directory and out of it again. -/
theorem openFile_text_behind_step_up :
    let d : Disk := ⟨[(["r"], .directory), (["r", "d"], .directory), (["r", "a.md"], .file [97])],
      ["r"], ⟨1, []⟩, ⟨1, []⟩, [], []⟩
    let t : Tab :=
      ⟨Workspace.numberedId 0, "a.md", some ⟨1, ["r", "a.md"]⟩, "markdown", ['a'], 1, none⟩
    let w : Workspace := ⟨⟨1, ["r"]⟩, [], [], 1⟩
    let w' : Workspace := ⟨⟨1, ["r"]⟩, [t], [t.id], 1⟩
    w.openFile d (.ofString "./d/../a.md") = .ok (t, w') ∧
      ∃ path, t.path = some path ∧ d.readText path none "strict" = .ok ['a'] := by
  intro d t w w'
  have opened : w.openFile d (.ofString "./d/../a.md") = .ok (t, w') := by decide +kernel
  have sound : d.Sound := ⟨by decide, by decide⟩
  obtain ⟨path, place, bytes, has, _, _, _, _, together, again⟩ :=
    openFile_text d sound w w' _ t opened (List.not_mem_nil)
  have same := together (by decide +kernel)
  have short : Encoding.Utf8.size path.text < 4096 := by
    obtain rfl := Option.some.inj has
    decide
  exact ⟨opened, path, has, (again same short).1⟩

/-- A path from the home is read in the directory that is called like the tilde, and kept as one
from the home, where the file has another text. -/
theorem openFile_text_from_home :
    let d : Disk := ⟨[(["~"], .directory), (["~", "a"], .file [97]), (["h"], .directory),
      (["h", "a"], .file [98])], [], ⟨1, ["h"]⟩, ⟨1, []⟩, [], []⟩
    let t : Tab := ⟨Workspace.numberedId 0, "a", some ⟨1, ["h", "a"]⟩, "plain_text", ['a'], 1, none⟩
    let w : Workspace := ⟨⟨1, []⟩, [], [], 1⟩
    d.Sound ∧ w.openFile d (.ofString "~/a") = .ok (t, ⟨⟨1, []⟩, [t], [t.id], 1⟩) ∧
      d.readText ⟨1, ["h", "a"]⟩ none "strict" = .ok ['b'] := by
  intro d t w
  exact ⟨⟨by decide, by decide⟩, by decide +kernel, by decide +kernel⟩

end OpenDocs.Tabs
