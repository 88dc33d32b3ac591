import MemberDiscovery.Config.Resource

/-! # Which file is loaded

A resource is looked for directory by directory, and in each directory with one extension after the
other; `FirstFile` says that a candidate is the first regular file in this order. That file is
loaded, even if it cannot be read, and nothing else is (`locateIn_loads_first`). Its extension tells
the format, unless the base name has an empty last part: then the point before the extension begins
the name of the file, which has no extension for that reason.
-/

namespace MemberDiscovery

/-! ## Errors of contents -/

namespace Yaml

mutual

theorem leaves_error : ∀ (value : Yaml) {path : Option String} {error : ClientError},
    value.leaves path = .error error → ∃ reason, error = .invalidConfiguration reason
  | .mapping entries, path, error, hread => leavesOfEntries_error entries hread
  | .tagged _ value, path, error, hread => leaves_error value hread
  | .null, path, error, hread | .bool _, path, error, hread | .number _, path, error, hread
  | .string _, path, error, hread | .sequence _, path, error, hread => by
      cases path <;> cases hread

theorem leavesOfEntries_error : ∀ (entries : List (Yaml × Yaml)) {path : Option String}
    {error : ClientError}, leavesOfEntries path entries = .error error →
      ∃ reason, error = .invalidConfiguration reason
  | [], path, error, hread => nomatch hread
  | (key, value) :: entries, path, error, hread => by
      rw [leavesOfEntries] at hread
      split at hread
      next name _ =>
        cases hfirst : value.leaves (some (PropertySet.joinKey path name)) with
        | error other =>
            rw [hfirst] at hread
            obtain rfl := Except.error.inj hread
            exact leaves_error value hfirst
        | ok first =>
            cases hothers : leavesOfEntries path entries with
            | error other =>
                rw [hfirst, hothers] at hread
                obtain rfl := Except.error.inj hread
                exact leavesOfEntries_error entries hothers
            | ok others =>
                rw [hfirst, hothers] at hread
                cases hread
      next => exact ⟨_, (Except.error.inj hread).symm⟩

end

end Yaml

/-- A text that is not of its format is not a missing file. -/
theorem FileFormat.parse_ne_missingResource (format : FileFormat) (text resource : String)
    (searched : List String) : format.parse text ≠ .error (.missingResource resource searched) := by
  intro hread
  cases format with
  | lines =>
      simp only [parse, PropertyText.parse] at hread
      split at hread
      next => cases hread
      next error _ => cases error <;> cases hread
  | yaml =>
      simp only [parse, PropertySet.parseYaml] at hread
      split at hread
      next value _ =>
        rw [PropertySet.ofYaml] at hread
        cases hleaves : value.leaves none with
        | ok leaves =>
            rw [hleaves] at hread
            cases hread
        | error error =>
            rw [hleaves] at hread
            obtain ⟨reason, rfl⟩ := Yaml.leaves_error value hleaves
            cases hread
      next => cases hread
  | json =>
      simp only [parse, PropertySet.parseJson] at hread
      split at hread
      next => cases hread
      next => cases hread

/-! ## The format of a candidate -/

/-- What may stand before the last part of a path: nothing, or what ends in a slash. -/
def EndsInSlash (above : List Char) : Prop :=
  above = [] ∨ ∃ front, above = front ++ ['/']

theorem EndsInSlash.append {above rest : List Char} (habove : EndsInSlash above)
    (hrest : EndsInSlash rest) : EndsInSlash (above ++ rest) := by
  rcases hrest with rfl | ⟨front, rfl⟩
  · rwa [List.append_nil]
  · exact .inr ⟨above ++ front, (List.append_assoc _ _ _).symm⟩

/-- Every path has a last part, which may be empty. -/
theorem exists_last_part (chars : List Char) :
    ∃ above last, chars = above ++ last ∧ EndsInSlash above ∧ '/' ∉ last := by
  induction chars with
  | nil => exact ⟨[], [], rfl, .inl rfl, nofun⟩
  | cons c rest ih =>
      obtain ⟨above, last, rfl, habove | ⟨front, rfl⟩, hlast⟩ := ih
      · subst habove
        by_cases hslash : c = '/'
        · exact ⟨['/'], last, by simp [hslash], .inr ⟨[], rfl⟩, hlast⟩
        · exact ⟨[], c :: last, rfl, .inl rfl, by simp [Ne.symm hslash, hlast]⟩
      · exact ⟨c :: front ++ ['/'], last, rfl, .inr ⟨c :: front, rfl⟩, hlast⟩

theorem last_part_eq_nil_iff {above last : List Char} (habove : EndsInSlash above)
    (hlast : '/' ∉ last) :
    last = [] ↔ above ++ last = [] ∨ (above ++ last).getLast? = some '/' := by
  constructor
  · rintro rfl
    rcases habove with rfl | ⟨front, rfl⟩
    · exact .inl rfl
    · exact .inr (by simp)
  · rintro (hnil | hslash)
    · exact (List.append_eq_nil_iff.mp hnil).2
    · cases last with
      | nil => rfl
      | cons c rest =>
          rw [List.getLast?_append, List.getLast?_cons, Option.some_or,
            ← List.getLast?_cons] at hslash
          exact absurd (List.mem_of_getLast? hslash) hlast

namespace FileFormat

theorem getLast?_parts {above last : List Char} (habove : EndsInSlash above) (hlast : '/' ∉ last) :
    (FileTree.parts (String.ofList (above ++ last))).getLast? = some (String.ofList last) := by
  have hone : Text.splitWhere (· = '/') last = [last] := by
    apply Text.splitWhere_of_forall
    intro c hc
    simpa using fun hslash : c = '/' => hlast (hslash ▸ hc)
  rw [FileTree.parts, Text.splitAtChar, String.toList_ofList]
  rcases habove with rfl | ⟨front, rfl⟩
  · simp [hone]
  · rw [List.append_assoc, List.singleton_append, Text.splitWhere_append_cons (by simp), hone]
    simp

/-- A last part that does not end in a point is the name of the file. -/
theorem fileName?_of_last {above last : List Char} (habove : EndsInSlash above)
    (hlast : '/' ∉ last) {c : Char} (hc : last.getLast? = some c) (hdot : c ≠ '.') :
    fileName? (String.ofList (above ++ last)) = some (String.ofList last) := by
  have hname : ∀ dots : String, dots.toList.getLast? ≠ some c → String.ofList last ≠ dots := by
    rintro dots hdots rfl
    exact hdots (by rw [String.toList_ofList, hc])
  have hone : String.ofList last ≠ "." := hname "." (by simpa using Ne.symm hdot)
  have htwo : String.ofList last ≠ ".." := hname ".." (by simpa using Ne.symm hdot)
  have hnone : String.ofList last ≠ "" := hname "" (by simp)
  obtain ⟨front, hparts⟩ := List.getLast?_eq_some_iff.mp (getLast?_parts habove hlast)
  have hkept : [String.ofList last].filter (fun part => part ≠ "" && part ≠ ".") =
      [String.ofList last] := List.filter_cons_of_pos (by simp [hnone, hone])
  rw [fileName?, hparts, List.filter_append, hkept, List.getLast?_concat, Option.filter_some,
    if_pos (by simpa using htwo)]

theorem extension?_ofList (stem : List Char) {extension : List Char}
    (hextension : '.' ∉ extension) :
    extension? (String.ofList (stem ++ '.' :: extension)) =
      if stem = [] then none else some (String.ofList extension) := by
  have hafter : ((stem ++ '.' :: extension).reverse.takeWhile (· ≠ '.')) = extension.reverse := by
    have hall : ∀ c ∈ extension.reverse, decide (c ≠ '.') = true := by
      intro c hc
      simpa using fun hdot : c = '.' => hextension (hdot ▸ List.mem_reverse.mp hc)
    rw [List.reverse_append, List.reverse_cons, List.append_assoc,
      List.takeWhile_append_of_pos hall]
    simp
  rw [extension?, String.length_ofList, String.toList_ofList]
  simp only [hafter, List.reverse_reverse, List.length_reverse, List.length_append,
    List.length_cons]
  cases stem with
  | nil => rw [if_neg (by simp), if_pos rfl]
  | cons c rest => rw [if_pos (by simp), if_neg (by simp)]

end FileFormat

namespace PropertySet

variable {files : FileSystem} {name directory extension : String} {directories : List String}

/-- A directory is put in front of a path, or nothing is. -/
theorem exists_toList_below (directory path : String) :
    ∃ above, EndsInSlash above ∧ (below directory path).toList = above ++ path.toList := by
  rw [below]
  split
  next => exact ⟨[], .inl rfl, rfl⟩
  next =>
    split
    next hslash =>
      obtain ⟨front, hfront⟩ := List.getLast?_eq_some_iff.mp hslash
      exact ⟨directory.toList, .inr ⟨front, hfront⟩, String.toList_append⟩
    next =>
      refine ⟨directory.toList ++ ['/'], .inr ⟨directory.toList, rfl⟩, ?_⟩
      simp [String.toList_append]

/-- The format of a candidate. Behind a base name without a last part, an extension is the name of
the file, and a name that begins with its only point has no extension. -/
def candidateFormat (name extension : String) : FileFormat :=
  if name = "" ∨ name.toList.getLast? = some '/' then .lines else .ofExtension extension

theorem plain_of_mem_extensions (hextension : extension ∈ extensions) :
    '/' ∉ extension.toList ∧ '.' ∉ extension.toList ∧
      ∃ c, extension.toList.getLast? = some c ∧ c ≠ '.' := by
  simp only [extensions, List.mem_cons, List.not_mem_nil, or_false] at hextension
  rcases hextension with rfl | rfl | rfl | rfl <;> simp

theorem ofPath_candidate (directory name : String) (hextension : extension ∈ extensions) :
    FileFormat.ofPath (candidate directory name extension) = candidateFormat name extension := by
  obtain ⟨hslash, hdot, c, hc, hne⟩ := plain_of_mem_extensions hextension
  obtain ⟨above, habove, hbelow⟩ := exists_toList_below directory (name ++ "." ++ extension)
  obtain ⟨rest, stem, hname, hrest, hstem⟩ := exists_last_part name.toList
  have hpath : candidate directory name extension =
      String.ofList ((above ++ rest) ++ (stem ++ '.' :: extension.toList)) := by
    rw [← String.toList_inj, String.toList_ofList, candidate, hbelow, String.toList_append,
      String.toList_append, hname]
    simp
  -- The last part of the path is that of the name with the extension behind it.
  have hlast : (stem ++ '.' :: extension.toList).getLast? = some c := by
    simp [List.getLast?_cons, hc]
  have hfile := FileFormat.fileName?_of_last (habove.append hrest) (by simp [hstem, hslash]) hlast
    hne
  have hnameless : (name = "" ∨ name.toList.getLast? = some '/') ↔ stem = [] := by
    rw [← String.toList_eq_nil_iff, hname]
    exact (last_part_eq_nil_iff hrest hstem).symm
  rw [FileFormat.ofPath, hpath, hfile, Option.bind_some, FileFormat.extension?_ofList stem hdot,
    candidateFormat]
  simp only [hnameless]
  split
  next => rfl
  next => simp

/-- A candidate is the first regular file: there is none in the directories before its own, nor in
its own with the extensions before its own. -/
def FirstFile (files : FileSystem) (name : String) (directories : List String)
    (directory extension : String) : Prop :=
  ∃ earlier later before after,
    directories = earlier ++ directory :: later ∧ extensions = before ++ extension :: after ∧
    files.isFile (candidate directory name extension) = true ∧
    (∀ other ∈ earlier, ∀ ending ∈ extensions,
      files.isFile (candidate other name ending) = false) ∧
    ∀ ending ∈ before, files.isFile (candidate directory name ending) = false

theorem mem_candidates_iff {path : String} :
    path ∈ candidates name directories ↔
      ∃ directory ∈ directories, ∃ extension ∈ extensions,
        candidate directory name extension = path := by
  simp [candidates]

theorem find?_candidates_of_firstFile
    (hfirst : FirstFile files name directories directory extension) :
    (candidates name directories).find? files.isFile =
      some (candidate directory name extension) := by
  obtain ⟨earlier, later, before, after, rfl, hextensions, hfile, hearlier, hbefore⟩ := hfirst
  refine List.find?_eq_some_iff_append.mpr ⟨hfile, candidates name earlier ++
    before.map (candidate directory name), after.map (candidate directory name) ++
      candidates name later, ?_, ?_⟩
  · have hmap : extensions.map (candidate directory name) = before.map (candidate directory name) ++
        candidate directory name extension :: after.map (candidate directory name) := by
      rw [hextensions, List.map_append, List.map_cons]
    simp [candidates, hmap]
  · intro path hpath
    rw [List.mem_append, mem_candidates_iff, List.mem_map] at hpath
    rcases hpath with ⟨other, hother, ending, hending, rfl⟩ | ⟨ending, hending, rfl⟩
    · simp [hearlier other hother ending hending]
    · simp [hbefore ending hending]

theorem exists_first_of_any {α : Type} {test : α → Bool} {items : List α}
    (hany : items.any test = true) : ∃ before item after, items = before ++ item :: after ∧
      test item = true ∧ ∀ other ∈ before, test other = false := by
  obtain ⟨item, hfound⟩ := Option.isSome_iff_exists.mp
    (List.find?_isSome.mpr (List.any_eq_true.mp hany))
  obtain ⟨htest, before, after, rfl, hbefore⟩ := List.find?_eq_some_iff_append.mp hfound
  exact ⟨before, item, after, rfl, htest, by simpa using hbefore⟩

/-- Whether a candidate in a directory is a regular file. -/
def isFoundIn (files : FileSystem) (name directory : String) : Bool :=
  extensions.any fun extension => files.isFile (candidate directory name extension)

theorem isFoundIn_eq_false_iff : isFoundIn files name directory = false ↔
    ∀ extension ∈ extensions, files.isFile (candidate directory name extension) = false := by
  simp [isFoundIn, List.any_eq_false]

/-- If there is a regular file among the candidates, there is a first one. -/
theorem firstFile_or_none (files : FileSystem) (name : String) (directories : List String) :
    (∃ directory extension, FirstFile files name directories directory extension) ∨
      ∀ directory ∈ directories, ∀ extension ∈ extensions,
        files.isFile (candidate directory name extension) = false := by
  cases hany : directories.any (isFoundIn files name) with
  | false =>
      right
      intro directory hdirectory
      have hnone := List.any_eq_false.mp hany directory hdirectory
      exact isFoundIn_eq_false_iff.mp (Bool.eq_false_iff.mpr hnone)
  | true =>
      obtain ⟨earlier, directory, later, hdirectories, hfound, hearlier⟩ :=
        exists_first_of_any hany
      obtain ⟨before, extension, after, hextensions, hfile, hbefore⟩ := exists_first_of_any hfound
      exact .inl ⟨directory, extension, earlier, later, before, after, hdirectories, hextensions,
        hfile, fun other hother => isFoundIn_eq_false_iff.mp (hearlier other hother), hbefore⟩

theorem locateIn_of_firstFile (hfirst : FirstFile files name directories directory extension) :
    locateIn files name directories = ofFile files (candidate directory name extension) := by
  rw [locateIn, find?_candidates_of_firstFile hfirst]

theorem locateIn_of_none (hnone : ∀ directory ∈ directories, ∀ extension ∈ extensions,
    files.isFile (candidate directory name extension) = false) :
    locateIn files name directories =
      .error (.missingResource (resourceName name) directories) := by
  have hfind : (candidates name directories).find? files.isFile = none := by
    rw [List.find?_eq_none]
    intro path hpath
    obtain ⟨directory, hdirectory, extension, hextension, rfl⟩ := mem_candidates_iff.mp hpath
    simp [hnone directory hdirectory extension hextension]
  rw [locateIn, hfind]

/-- The first regular file in the order of directories and, in each, of extensions decides what
becomes of a resource: its text is read in its format, or it cannot be read. A resource is missing,
in all the directories, if and only if no candidate is a regular file. -/
theorem locateIn_loads_first (files : FileSystem) (name : String) (directories : List String) :
    (∀ directory extension, FirstFile files name directories directory extension →
      (∀ text, files.text? (candidate directory name extension) = some text →
        locateIn files name directories = (candidateFormat name extension).parse text) ∧
      (files.text? (candidate directory name extension) = none →
        locateIn files name directories =
          .error (.unreadable (candidate directory name extension)))) ∧
    ((∃ directory extension, FirstFile files name directories directory extension) ∨
      ∀ directory ∈ directories, ∀ extension ∈ extensions,
        files.isFile (candidate directory name extension) = false) ∧
    ∀ resource searched,
      locateIn files name directories = .error (.missingResource resource searched) ↔
        resource = resourceName name ∧ searched = directories ∧
          ∀ directory ∈ directories, ∀ extension ∈ extensions,
            files.isFile (candidate directory name extension) = false := by
  refine ⟨?_, firstFile_or_none files name directories, ?_⟩
  · intro directory extension hfirst
    obtain ⟨-, -, before, after, -, hextensions, -⟩ := id hfirst
    have hextension : extension ∈ extensions := by simp [hextensions]
    rw [locateIn_of_firstFile hfirst, ofFile, ofPath_candidate directory name hextension]
    constructor
    · intro text htext
      rw [htext]
    · intro htext
      rw [htext]
  · intro resource searched
    constructor
    · intro hmissing
      rcases firstFile_or_none files name directories with ⟨directory, extension, hfirst⟩ | hnone
      · rw [locateIn_of_firstFile hfirst, ofFile] at hmissing
        split at hmissing
        next text _ => exact absurd hmissing (FileFormat.parse_ne_missingResource _ _ _ _)
        next => cases hmissing
      · rw [locateIn_of_none hnone] at hmissing
        cases hmissing
        exact ⟨rfl, rfl, hnone⟩
    · rintro ⟨rfl, rfl, hnone⟩
      exact locateIn_of_none hnone

/-- A directory with the name of a candidate, a file, and a file in a later directory. -/
def sampleFiles : FileTree :=
  ((FileTree.add ∅ "conf/eureka-client.properties" .directory).add "conf/eureka-client.json"
    (.file "\x7b\"zone\": \"b\"\x7d".toUTF8)).add "etc/eureka-client.properties"
      (.file "zone=c".toUTF8)

/-- The file in the first directory is loaded, and the directory in it is passed over. -/
theorem sample_locateIn :
    locateIn sampleFiles "eureka-client" ["conf", "etc"] =
      FileFormat.json.parse "\x7b\"zone\": \"b\"\x7d" := by
  have hfirst : FirstFile sampleFiles "eureka-client" ["conf", "etc"] "conf" "json" :=
    ⟨[], ["etc"], ["properties", "yaml", "yml"], [], rfl, rfl, by decide +kernel, nofun,
      by decide +kernel⟩
  exact ((locateIn_loads_first sampleFiles "eureka-client" ["conf", "etc"]).1 "conf" "json"
    hfirst).1 _ (by decide +kernel)

def namelessYaml : FileTree :=
  FileTree.add ∅ ".yaml" (.file "a:\n  b: 1\n".toUTF8)

/-- Without a base name, a file with the extension of a format is not read in this format. -/
theorem nameless_yaml_read_as_lines :
    FirstFile namelessYaml "" ["."] "." "yaml" ∧
      (FileTree.system namelessYaml).text? (candidate "." "" "yaml") = some "a:\n  b: 1\n" ∧
      locateIn namelessYaml "" ["."] ≠ (FileFormat.ofExtension "yaml").parse "a:\n  b: 1\n" := by
  refine ⟨⟨[], [], ["properties"], ["yml", "json"], rfl, rfl, ?_, nofun, ?_⟩, ?_, ?_⟩
  · decide +kernel
  · decide +kernel
  · decide +kernel
  · intro hsame
    have hvalue : (locateIn namelessYaml "" ["."]).toOption.bind (·.get? "a.b") ≠
        ((FileFormat.ofExtension "yaml").parse "a:\n  b: 1\n").toOption.bind (·.get? "a.b") := by
      decide +kernel
    exact hvalue (by rw [hsame])

end PropertySet

end MemberDiscovery
