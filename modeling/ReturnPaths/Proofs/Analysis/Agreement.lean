import ReturnPaths.Proofs.Analysis.Collection
import ReturnPaths.Proofs.FileTree.Agreement
import ReturnPaths.Proofs.Path.Below

/-!
# Units of trees that agree

A configuration file is no flow unit by its name, so no configuration file below a directory is
taken as a unit.  Trees that agree but for some configuration files have the same units, if no such
file is given itself.

* `collectUnits_agree` : what is collected in both trees, in the same order and spelling.
* `alike_of_mem_collectUnits` : the units are the same files in both trees.
-/

namespace ReturnPaths

/-! ### The names of units and of configuration files -/

theorem Path.fileName?_ofNames {names : List String} (hne : names ≠ [])
    (hnames : ∀ name ∈ names, EntryName name) : (ofNames names).fileName? = names.getLast? := by
  rw [fileName?, components_eq, leading_ofNames hne hnames, List.nil_append,
    EntryName.steps_ofNames hne hnames, List.getLast?_map]
  cases names.getLast? <;> rfl

theorem fileName?_ne_of_extension? {path : Path} (h : path.extension? = some unitExtension) :
    path.fileName? ≠ some configFileName := by
  intro hname
  rw [Path.extension?, hname] at h
  revert h
  decide

/-- Actions that give related results one by one give lists of related results, or fail for the same
reason. -/
theorem mapM_cases {α β ε : Type} {action action' : α → Except ε β} {relation : β → β → Prop}
    {list : List α} (h : ∀ a ∈ list,
      (∃ error, action a = .error error ∧ action' a = .error error) ∨
        ∃ b b', action a = .ok b ∧ action' a = .ok b' ∧ relation b b') :
    (∃ error, list.mapM action = .error error ∧ list.mapM action' = .error error) ∨
      ∃ bs bs', list.mapM action = .ok bs ∧ list.mapM action' = .ok bs' ∧
        List.Forall₂ relation bs bs' := by
  induction list with
  | nil => exact .inr ⟨[], [], rfl, rfl, .nil⟩
  | cons a list ih =>
    obtain ⟨hfirst, hrest⟩ := List.forall_mem_cons.1 h
    rw [List.mapM_cons, List.mapM_cons]
    rcases hfirst with ⟨error, ha, ha'⟩ | ⟨b, b', ha, ha', hb⟩
    · exact .inl ⟨error, by rw [ha]; rfl, by rw [ha']; rfl⟩
    · rw [ha, ha']
      rcases ih hrest with ⟨error, hlist, hlist'⟩ | ⟨bs, bs', hlist, hlist', hbs⟩
      · exact .inl ⟨error, by rw [hlist]; rfl, by rw [hlist']; rfl⟩
      · exact .inr ⟨b :: bs, b' :: bs', by rw [hlist]; rfl, by rw [hlist']; rfl, .cons hb hbs⟩

/-! ### Units for one path -/

section Units

variable {config : Config} {files files' : FileTree} {path unit : Path} {paths units : List Path}

theorem pairwise_unitsAt (hfiles : files.WellFormed)
    (hunits : unitsAt config files path = .ok units) :
    units.Pairwise fun a b => a.compare b ≠ .eq := by
  rw [unitsAt] at hunits
  split at hunits
  · cases hunits
    exact List.pairwise_singleton _ _
  · rename_i directory hnot hnode
    cases hunits
    obtain ⟨entries, rfl⟩ : ∃ entries, directory = .directory entries := by
      cases directory with
      | file content => exact absurd rfl (hnot content)
      | directory entries => exact ⟨entries, rfl⟩
    have hwf : (Node.directory entries).WellFormed := hfiles.node? hnode
    have hnames (names : List String) (hmem : names ∈ (Node.directory entries).files) :
        names ≠ [] ∧ ∀ name ∈ names, Path.EntryName name := by
      obtain ⟨content, hfile⟩ := (Node.mem_files _ hwf names).1 hmem
      exact ⟨Node.ne_nil_of_get?_directory hfile, hwf.entryName hfile⟩
    refine List.Pairwise.filter _ (List.pairwise_map.2 (List.Pairwise.filter _
      (List.pairwise_map.2 ((Node.nodup_files _ hwf).imp_of_mem ?_))))
    intro names names' hmem hmem' hne heq
    -- the same path leads to the same position, which ends in the names below the directory
    have hposition := files.position_congr (Path.same_iff.2 (Path.compare_eq_eq.1 heq))
    have htext := FileTree.text_ne_empty hnode
    have hjoin (names : List String) (hmem : names ∈ (Node.directory entries).files) :
        files.position (path.join ⟨"/".intercalate names⟩) = files.position path ++ names :=
      FileTree.position_join htext (hnames names hmem).1 (hnames names hmem).2
    rw [hjoin names hmem, hjoin names' hmem'] at hposition
    exact hne (List.append_cancel_left hposition)
  · cases hunits

variable {special : List String → Prop}

theorem not_special_of_extension?
    (hspecial : ∀ position, special position → position.getLast? = some configFileName)
    {names : List String} (hne : names ≠ []) (hnames : ∀ name ∈ names, Path.EntryName name)
    (hextension : (Path.ofNames names).extension? = some unitExtension) (above : List String) :
    ¬ special (above ++ names) := by
  intro hspecial'
  have hlast := hspecial _ hspecial'
  rw [List.getLast?_append_of_ne_nil _ hne, ← Path.fileName?_ofNames hne hnames] at hlast
  exact fileName?_ne_of_extension? hextension hlast

variable (hagree : files.AgreeBut special files')
  (hspecial : ∀ position, special position → position.getLast? = some configFileName)

include hagree hspecial

theorem IsUnit.agree (hfiles : files.WellFormed) (hpath : files.SameAt files' path)
    (hunit : IsUnit config files path unit) : IsUnit config files' path unit := by
  cases hunit with
  | file hfile =>
    obtain ⟨content, hnode⟩ := FileTree.isFile_iff.1 hfile
    rcases hpath.node?_eq with ⟨hnone, -⟩ | ⟨content', -, hnode'⟩ | ⟨_, _, hdir, -⟩
    · rw [hnode] at hnone
      cases hnone
    · exact .file (FileTree.isFile_iff.2 ⟨content', hnode'⟩)
    · rw [hnode] at hdir
      cases hdir
  | @below entries names content hdir hfile hextension hkept =>
    rcases hpath.node?_eq with ⟨hnone, -⟩ | ⟨_, hfile', -⟩ | ⟨_, entries', -, hdir'⟩
    · rw [hdir] at hnone
      cases hnone
    · rw [hdir] at hfile'
      cases hfile'
    · have hwf : (Node.directory entries).WellFormed := hfiles.node? hdir
      have hne := Node.ne_nil_of_get?_directory hfile
      have hposition : files'.position path = files.position path := by
        rw [FileTree.position, FileTree.position, hagree.workingDirectory]
      have hnot := not_special_of_extension? hspecial hne
        (hwf.entryName hfile) hextension (files.position path)
      have hentry := hagree.entry _ hnot
      have hleaves' := FileTree.leaves_position hdir'
      rw [hposition] at hleaves'
      rw [FileTree.entryAt?, FileTree.entryAt?, hleaves'.get?_append hne,
        (FileTree.leaves_position hdir).get?_append hne, hfile] at hentry
      obtain ⟨node, hnode, hcontent⟩ := Option.map_eq_some_iff.1 hentry
      rw [Node.content?_eq_some.1 hcontent] at hnode
      exact .below hdir' hnode hextension hkept

theorem mem_unitsAt_agree {units' : List Path} (hfiles : files.WellFormed)
    (hfiles' : files'.WellFormed) (hpath : files.SameAt files' path)
    (hunits : unitsAt config files path = .ok units)
    (hunits' : unitsAt config files' path = .ok units') : unit ∈ units' ↔ unit ∈ units := by
  rw [mem_unitsAt hfiles hunits, mem_unitsAt hfiles' hunits']
  constructor
  · rintro ⟨hunit, hfile⟩
    have hunit' := hunit.agree hagree.symm hspecial hfiles' hpath.symm
    exact ⟨hunit', (hunit'.isFile_iff hfiles).2 ((hunit.isFile_iff hfiles').1 hfile)⟩
  · rintro ⟨hunit, hfile⟩
    have hunit' := hunit.agree hagree hspecial hfiles hpath
    exact ⟨hunit', (hunit'.isFile_iff hfiles').2 ((hunit.isFile_iff hfiles).1 hfile)⟩

theorem unitsAt_agree (config : Config) (hfiles : files.WellFormed) (hfiles' : files'.WellFormed)
    (hpath : files.SameAt files' path) :
    (∃ error, unitsAt config files path = .error error ∧
        unitsAt config files' path = .error error) ∨
      ∃ units units', unitsAt config files path = .ok units ∧
        unitsAt config files' path = .ok units' ∧ ∀ a : Path,
          units'.filter (fun b => a.compare b = .eq) = units.filter fun b => a.compare b = .eq := by
  rcases hpath.node?_eq with ⟨hnone, hnone'⟩ | hthere
  · exact .inl ⟨.pathNotFound path, by rw [unitsAt, hnone], by rw [unitsAt, hnone']⟩
  · obtain ⟨⟨units, hunits⟩, units', hunits'⟩ :
        (∃ units, unitsAt config files path = .ok units) ∧
          ∃ units', unitsAt config files' path = .ok units' := by
      rw [unitsAt, unitsAt]
      rcases hthere with ⟨_, hnode, hnode'⟩ | ⟨_, _, hnode, hnode'⟩ <;> simp [hnode, hnode']
    have hdistinct := pairwise_unitsAt hfiles hunits
    have hdistinct' := pairwise_unitsAt hfiles' hunits'
    have hself (a : Path) : a.compare a = .eq := Std.ReflCmp.compare_self
    have hnodup {units : List Path} (h : units.Pairwise fun a b => a.compare b ≠ .eq) :
        units.Nodup := by
      refine h.imp fun {a b} hne heq => hne ?_
      rw [heq, hself]
    have hperm : units'.Perm units :=
      (List.perm_ext_iff_of_nodup (hnodup hdistinct') (hnodup hdistinct)).2 fun unit =>
        mem_unitsAt_agree hagree hspecial hfiles hfiles' hpath hunits hunits'
    exact .inr ⟨units, units', hunits, hunits', filter_eq_of_perm hperm hdistinct⟩

/-- **What is collected in trees that agree** but for some configuration files is the same, in the
same order and in the same spelling, if the given paths lead to the same. -/
theorem collectUnits_agree (config : Config) (hfiles : files.WellFormed)
    (hfiles' : files'.WellFormed) (hpaths : ∀ path ∈ paths, files.SameAt files' path) :
    collectUnits config files' paths = collectUnits config files paths := by
  by_cases hnil : paths = []
  · rw [hnil]
    rfl
  rw [collectUnits_eq hnil, collectUnits_eq hnil]
  have hat (path : Path) (hpath : path ∈ paths) :=
    unitsAt_agree hagree hspecial config hfiles hfiles' (hpaths path hpath)
  rcases mapM_cases hat with ⟨error, hfound, hfound'⟩ | ⟨found, found', hfound, hfound', hrel⟩
  · rw [hfound, hfound']
  · have hfilter (a : Path) : found'.flatten.filter (fun b => a.compare b = .eq) =
        found.flatten.filter fun b => a.compare b = .eq := by
      clear hfound hfound'
      induction hrel with
      | nil => rfl
      | cons hunits _ ih =>
        rw [List.flatten_cons, List.flatten_cons, List.filter_append, List.filter_append, hunits,
          ih]
    have hsort : found'.flatten.mergeSort Path.le = found.flatten.mergeSort Path.le :=
      mergeSort_eq_of_filter hfilter
    rw [hfound, hfound', Except.map, Except.map, hsort]

/-- **The units are the same files** in both trees, if no configuration file is given. -/
theorem alike_of_mem_collectUnits (hfiles : files.WellFormed)
    (hpaths : ∀ path ∈ paths, files.Avoids special path)
    (hunits : collectUnits config files paths = .ok units) (hunit : unit ∈ units) :
    files.Alike files' unit := by
  obtain ⟨path, hpath, hunit, hthere⟩ := isUnit_of_mem_collectUnits hfiles hunits hunit
  obtain ⟨content, hnode⟩ := FileTree.isFile_iff.1 hthere
  have hlocate := FileTree.node?_eq_some.1 hnode
  refine hagree.alike hlocate fun hget => ?_
  cases hunit with
  | file _ => exact hpaths _ hpath _ ⟨_, hlocate, hget⟩
  | @below entries names content hdir hfile hextension hkept =>
    have hwf : (Node.directory entries).WellFormed := hfiles.node? hdir
    have hne := Node.ne_nil_of_get?_directory hfile
    have hnames : ∀ name ∈ names, Path.EntryName name := hwf.entryName hfile
    rw [FileTree.position_join (FileTree.text_ne_empty hdir) hne hnames]
    exact not_special_of_extension? hspecial hne hnames hextension _

end Units

end ReturnPaths
