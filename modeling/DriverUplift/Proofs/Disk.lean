import DriverUplift.Disk
import DriverUplift.Proofs.Members

/-!
# Laws of reading and writing files

A path that leads to a text file can be written, the file then has the text that
was written, and of two writes only the second one leaves a trace.  Writing a
file moves no folder, so every path leads where it led before.
-/

namespace DriverUplift

namespace Node

variable {names : List String} {node : Node} {old : Content}

theorem find?_cons_eq_some {name : String} {found : Node}
    (h : find? (name :: names) node = some found) :
    ∃ entries child, node = folder entries ∧ Members.get? name entries = some child ∧
      find? names child = some found := by
  cases node with
  | file content => simp [find?] at h
  | folder entries =>
      cases child : Members.get? name entries with
      | none => simp [find?, child] at h
      | some next => exact ⟨entries, next, rfl, child, by simpa [find?, child] using h⟩

theorem putFile_cons {name : String} {entries : List (String × Node)} {child : Node}
    (there : Members.get? name entries = some child) (content : Content) :
    putFile content (name :: names) (folder entries) =
      folder (Members.put name (putFile content names child) entries) := by
  simp [putFile, there]

/-- A file that was replaced has the new content. -/
theorem find?_putFile_self (found : find? names node = some (file old)) (content : Content) :
    find? names (putFile content names node) = some (file content) := by
  induction names generalizing node with
  | nil => rfl
  | cons name names ih =>
      obtain ⟨entries, child, rfl, there, inner⟩ := find?_cons_eq_some found
      rw [putFile_cons there]
      simpa [find?, Members.get?_put] using ih inner

/-- Where there was a folder there still is one when a file has been replaced. -/
theorem find?_putFile_folder (found : find? names node = some (file old)) (content : Content)
    {other : List String} {entries : List (String × Node)}
    (isFolder : find? other node = some (folder entries)) :
    ∃ after, find? other (putFile content names node) = some (folder after) := by
  induction names generalizing node other with
  | nil =>
      obtain rfl : node = file old := by simpa [find?] using found
      cases other <;> simp [find?] at isFolder
  | cons name names ih =>
      obtain ⟨around, child, rfl, there, inner⟩ := find?_cons_eq_some found
      rw [putFile_cons there]
      cases other with
      | nil => exact ⟨_, rfl⟩
      | cons first rest =>
          obtain ⟨_, next, same, thereNext, innerFolder⟩ := find?_cons_eq_some isFolder
          obtain rfl := Node.folder.inj same
          by_cases hit : first = name
          · subst hit
            rw [there] at thereNext
            obtain rfl := Option.some.inj thereNext
            simpa [find?, Members.get?_put] using ih inner innerFolder
          · exact ⟨entries, by simpa [find?, Members.get?_put, hit, thereNext] using innerFolder⟩

/-- The second of two contents stays. -/
theorem putFile_putFile (found : find? names node = some (file old)) (first second : Content) :
    putFile second names (putFile first names node) = putFile second names node := by
  induction names generalizing node with
  | nil => rfl
  | cons name names ih =>
      obtain ⟨entries, child, rfl, there, inner⟩ := find?_cons_eq_some found
      have again : Members.get? name (Members.put name (putFile first names child) entries) =
          some (putFile first names child) := by
        rw [Members.get?_put, if_pos rfl]
      rw [putFile_cons there, putFile_cons again, putFile_cons there, ih inner, Members.put_put]

end Node

namespace Disk

variable {disk : Disk} {names : List String} {old : Content}

theorem node_putFile (found : disk.node.find? names = some (.file old)) (content : Content) :
    (disk.putFile names content).node = Node.putFile content names disk.node := by
  cases names with
  | nil => simp [node, Node.find?] at found
  | cons name names =>
      obtain ⟨entries, child, same, there, _⟩ := Node.find?_cons_eq_some found
      rw [putFile, same, Node.putFile_cons there]
      rfl

theorem root_putFile (disk : Disk) (names : List String) (content : Content) :
    (disk.putFile names content).root = disk.root := by
  unfold putFile
  split <;> rfl

theorem eq_of_node {one other : Disk} (root : one.root = other.root)
    (node : one.node = other.node) : one = other := by
  cases one
  cases other
  simp_all [Disk.node]

/-- The second of two contents stays. -/
theorem putFile_putFile (found : disk.node.find? names = some (.file old))
    (first second : Content) :
    (disk.putFile names first).putFile names second = disk.putFile names second := by
  have replaced : (disk.putFile names first).node.find? names = some (.file first) := by
    rw [node_putFile found]
    exact Node.find?_putFile_self found first
  refine eq_of_node (by simp only [root_putFile]) ?_
  rw [node_putFile replaced, node_putFile found, node_putFile found,
    Node.putFile_putFile found]

theorem start_putFile (disk : Disk) (names : List String) (content : Content) (path : String) :
    (disk.putFile names content).start path = disk.start path := by
  simp only [start, root_putFile]

/-- A path that leads to a file leads to the node of the file. -/
theorem find?_of_follow {place : Place} {parts : List String} {content : Content}
    (leads : disk.follow place parts = .ok (.file names content)) :
    disk.node.find? names = some (.file content) := by
  fun_induction follow disk place parts <;> simp_all

/-- Replacing a file changes nothing on the way to it. -/
theorem follow_putFile (found : disk.node.find? names = some (.file old)) (content : Content)
    {place : Place} {parts : List String}
    (leads : disk.follow place parts = .ok (.file names old)) :
    (disk.putFile names content).follow place parts = .ok (.file names content) := by
  have onNode := node_putFile found content
  fun_induction follow disk place parts with
  | case1 => cases leads
  | case2 place part parts here ih =>
      unfold follow
      rw [if_pos here, ih leads]
  | case3 place parts here ih =>
      unfold follow
      rw [if_neg here, if_pos rfl, ih leads]
  | case4 => cases leads
  | case5 => cases leads
  | case6 part parts here up short inside entries isFolder ih =>
      obtain ⟨after, stillFolder⟩ := Node.find?_putFile_folder found content isFolder
      rw [follow, if_neg here, if_neg up, if_neg short]
      simp only [onNode, stillFolder, ih leads]
  | case7 part parts here up short inside file isFile last =>
      obtain ⟨rfl, rfl⟩ : inside ++ [part] = names ∧ file = old := by simpa using leads
      have replaced := Node.find?_putFile_self found content
      rw [follow, if_neg here, if_neg up, if_neg short]
      simp only [onNode, replaced, last, if_true]
  | _ => cases leads

theorem lookUp_eq_follow {path : String} {target : Target}
    (leads : disk.lookUp path = .ok target) :
    disk.follow (disk.start path).1 (disk.start path).2 = .ok target := by
  unfold lookUp at leads
  split at leads
  · cases leads
  split at leads
  · cases leads
  split at leads
  · cases leads
  · exact leads

/-- A path still leads to a file that has been replaced. -/
theorem lookUp_putFile {path : String} (leads : disk.lookUp path = .ok (.file names old))
    (content : Content) :
    (disk.putFile names content).lookUp path = .ok (.file names content) := by
  have follows := lookUp_eq_follow leads
  have after := follow_putFile (find?_of_follow follows) content follows
  unfold lookUp at leads ⊢
  split at leads
  · cases leads
  split at leads
  · cases leads
  split at leads
  · cases leads
  rename_i clean nonempty short
  rw [if_neg clean, if_neg nonempty, if_neg short]
  simp only [start_putFile]
  exact after

/-! ## Reading and writing -/

variable {path text : String}

theorem read_eq_ok_iff :
    disk.read path = .ok text ↔ ∃ names, disk.lookUp path = .ok (.file names (.text text)) := by
  unfold read
  constructor
  · intro read
    split at read
    case h_3 names found leads =>
        obtain rfl := Except.ok.inj read
        exact ⟨names, leads⟩
    all_goals cases read
  · rintro ⟨names, leads⟩
    rw [leads]

/-- A text file in the working folder is read by its name. -/
theorem read_of_get? {name : String} (started : disk.start name = (.inside [], [name]))
    (plain : name.toList.contains '\x00' = false ∧ name ≠ "" ∧ name ≠ "." ∧ name ≠ "..")
    (short : name.utf8ByteSize ≤ nameLimit)
    (there : Members.get? name disk.entries = some (.file (.text text))) :
    disk.read name = .ok text := by
  obtain ⟨noNul, nonempty, notHere, notUp⟩ := plain
  have shortPath : ¬pathLimit < name.utf8ByteSize := by
    simp only [pathLimit]
    simp only [nameLimit] at short
    omega
  have found : disk.node.find? ([] ++ [name]) = some (.file (.text text)) := by
    simp [node, Node.find?, there]
  refine read_eq_ok_iff.mpr ⟨[name], ?_⟩
  rw [lookUp, noNul, if_neg Bool.false_ne_true, if_neg nonempty, if_neg shortPath, started]
  simp only
  rw [follow, if_neg (by simp [nonempty, notHere]), if_neg notUp, if_neg (Nat.not_lt.mpr short)]
  simp only [found]
  rfl

/-- A text file that can be read can be written. -/
theorem exists_write (read : disk.read path = .ok text) (content : Content) :
    ∃ after, disk.write path content = .ok after := by
  obtain ⟨names, leads⟩ := read_eq_ok_iff.mp read
  exact ⟨disk.putFile names content, by rw [write, leads]⟩

/-- What was written to a text file is read from it. -/
theorem read_of_write (read : disk.read path = .ok text) {new : String} {after : Disk}
    (written : disk.write path (.text new) = .ok after) : after.read path = .ok new := by
  obtain ⟨names, leads⟩ := read_eq_ok_iff.mp read
  rw [write, leads] at written
  obtain rfl := Except.ok.inj written
  exact read_eq_ok_iff.mpr ⟨names, lookUp_putFile leads (.text new)⟩

/-- Writing over what was just written is as if it had never been written. -/
theorem write_of_write (read : disk.read path = .ok text) {first : Content} {after : Disk}
    (written : disk.write path first = .ok after) (second : Content) :
    after.write path second = disk.write path second := by
  obtain ⟨names, leads⟩ := read_eq_ok_iff.mp read
  have found := find?_of_follow (lookUp_eq_follow leads)
  rw [write, leads] at written
  obtain rfl := Except.ok.inj written
  simp only [write, lookUp_putFile leads first, leads, putFile_putFile found first second]

end Disk

end DriverUplift
