import FilterQuery.Text.Blank

/-!
# Paths

Paths are texts with `/` between their components.  A path that a user gives may be relative, may
begin at the home directory with `~`, and may have blanks around it; expanding it makes it absolute.
A path with neither `~` nor blanks at its ends is only joined to the current directory.
-/

namespace FilterQuery

structure Directories where
  home : String
  current : String

namespace Path

def isAbsolute (path : String) : Bool :=
  path.toList.head? == some '/'

/-- A path below a base; an absolute path stands for itself. -/
def join (base path : String) : String :=
  if isAbsolute path then path
  else if base.isEmpty || base.toList.getLast? == some '/' then base ++ path
  else base ++ "/" ++ path

@[simp] theorem join_empty_left (path : String) : join "" path = path := by
  simp [join]

theorem join_of_isAbsolute {base path : String} (hpath : isAbsolute path = true) :
    join base path = path := by
  simp [join, hpath]

/-- A relative path stands behind its base, with at most a slash between them. -/
theorem toList_join (base : String) {path : String} (hpath : isAbsolute path = false) :
    ∃ between, (join base path).toList = base.toList ++ (between ++ path.toList) := by
  rw [join, if_neg (by simp [hpath])]
  split
  · exact ⟨[], by simp⟩
  · exact ⟨['/'], by simp⟩

theorem head?_join {base path : String} (hbase : base ≠ "") (hpath : isAbsolute path = false) :
    (join base path).toList.head? = base.toList.head? := by
  obtain ⟨between, hjoin⟩ := toList_join base hpath
  rw [hjoin, List.head?_append,
    Option.or_of_isSome (List.isSome_head?.2 (by simpa using hbase))]

theorem getLast?_join (base : String) {path : String} (hpath : path ≠ "") :
    (join base path).toList.getLast? = path.toList.getLast? := by
  have hne : path.toList ≠ [] := by simpa using hpath
  cases habsolute : isAbsolute path with
  | true => rw [join_of_isAbsolute habsolute]
  | false =>
      obtain ⟨between, hjoin⟩ := toList_join base habsolute
      rw [hjoin, ← List.append_assoc, List.getLast?_append,
        Option.or_of_isSome (List.getLast?_isSome.2 hne)]

theorem isAbsolute_join {base : String} (path : String) (hbase : isAbsolute base = true) :
    isAbsolute (join base path) = true := by
  cases hpath : isAbsolute path with
  | true => rw [join_of_isAbsolute hpath, hpath]
  | false =>
      have hne : base ≠ "" := by
        rintro rfl
        simp [isAbsolute] at hbase
      rw [isAbsolute, head?_join hne hpath]
      exact hbase

/-! ## Components -/

def components : List Char → List (List Char)
  | [] => [[]]
  | c :: rest =>
      if c = '/' then [] :: components rest
      else
        match components rest with
        | [] => [[c]]
        | first :: others => (c :: first) :: others

def ofComponents : List (List Char) → List Char
  | [] => []
  | [component] => component
  | component :: next :: rest => component ++ '/' :: ofComponents (next :: rest)

@[simp] theorem components_ne_nil (chars : List Char) : components chars ≠ [] := by
  cases chars with
  | nil => simp [components]
  | cons c rest =>
      rw [components]
      split
      · simp
      · split <;> simp

theorem ofComponents_cons_cons (c : Char) (first : List Char) (others : List (List Char)) :
    ofComponents ((c :: first) :: others) = c :: ofComponents (first :: others) := by
  cases others <;> rfl

theorem ofComponents_nil_cons {components : List (List Char)} (hne : components ≠ []) :
    ofComponents ([] :: components) = '/' :: ofComponents components := by
  cases components with
  | nil => exact absurd rfl hne
  | cons => rfl

@[simp] theorem ofComponents_components (chars : List Char) :
    ofComponents (components chars) = chars := by
  induction chars with
  | nil => rfl
  | cons c rest ih =>
      rw [components]
      split
      · rename_i hc
        rw [ofComponents_nil_cons (components_ne_nil rest), ih, hc]
      · split
        · rename_i hnil
          exact absurd hnil (components_ne_nil rest)
        · rename_i first others hrest
          rw [ofComponents_cons_cons, ← hrest, ih]

theorem ofComponents_isPrefix {outer whole : List (List Char)} (houter : outer <+: whole) :
    ofComponents outer <+: ofComponents whole := by
  induction outer generalizing whole with
  | nil => exact List.nil_prefix
  | cons component outer ih =>
      obtain ⟨inner, rfl⟩ := houter
      cases outer with
      | nil =>
          cases inner with
          | nil => exact List.prefix_rfl
          | cons => exact List.prefix_append _ _
      | cons next rest =>
          have hrest := ih (List.prefix_append (next :: rest) inner)
          simpa [ofComponents] using hrest

def isVoid (component : List Char) : Bool :=
  component == [] || component == ['.']

def parent (path : String) : String :=
  let outward := ((components path.toList).reverse.dropWhile isVoid).drop 1
  let directory := String.ofList (ofComponents (outward.dropWhile isVoid).reverse)
  if directory.isEmpty && isAbsolute path then "/" else directory

/-- The directory of a file is a beginning of its path, except that nothing but the root is left of
an absolute one. -/
theorem parent_isPrefix_or (path : String) :
    (parent path).toList <+: path.toList ∨ parent path = "/" ∧ isAbsolute path = true := by
  have hsuffix : ((((components path.toList).reverse.dropWhile isVoid).drop 1).dropWhile isVoid) <:+
      (components path.toList).reverse :=
    (List.dropWhile_suffix _).trans ((List.drop_suffix _ _).trans (List.dropWhile_suffix _))
  -- Components are dropped at the end only, so what is left of them is written at the beginning.
  have hprefix := ofComponents_isPrefix (List.reverse_prefix.2 hsuffix)
  rw [List.reverse_reverse, ofComponents_components] at hprefix
  unfold parent
  dsimp only
  split
  · rename_i hroot
    rw [Bool.and_eq_true] at hroot
    exact .inr ⟨rfl, hroot.2⟩
  · left
    simpa using hprefix

theorem parent_eq_empty_or_head?_parent (path : String) :
    parent path = "" ∨ (parent path).toList.head? = path.toList.head? := by
  rcases parent_isPrefix_or path with hprefix | ⟨hroot, habsolute⟩
  · by_cases hempty : parent path = ""
    · exact .inl hempty
    · right
      have hne : (parent path).toList ≠ [] := by simpa using hempty
      obtain ⟨rest, hrest⟩ := hprefix
      rw [← hrest, List.head?_append, Option.or_of_isSome (List.isSome_head?.2 hne)]
  · right
    rw [isAbsolute, beq_iff_eq] at habsolute
    rw [hroot, habsolute]
    rfl

/-- The beginnings of a list, the longest first, without the empty one. -/
def beginnings {α : Type} (items : List α) : List (List α) :=
  ((List.range items.length).map fun count => items.take (count + 1)).reverse

def ancestors (directory : String) : List String :=
  (beginnings (components directory.toList)).map fun inner =>
    let path := String.ofList (ofComponents inner)
    if path.isEmpty then "/" else path

/-! ## Expanding -/

def expandHome (directories : Directories) (path : String) : String :=
  match path.toList with
  | ['~'] => directories.home
  | '~' :: '/' :: rest => join directories.home (String.ofList rest)
  | _ => path

def expand (directories : Directories) (path : String) : String :=
  let path := Text.trim path
  if path.isEmpty then directories.current
  else join directories.current (expandHome directories path)

/-- The beginning of the path has no meaning of its own, as that of an absolute path. -/
def IsLiteral (path : String) : Prop :=
  ∀ c ∈ path.toList.head?, c ≠ '~' ∧ Text.isBlank c = false

theorem IsLiteral.of_isAbsolute {path : String} (hpath : isAbsolute path = true) :
    IsLiteral path := by
  rw [isAbsolute, beq_iff_eq] at hpath
  intro c hc
  rw [hpath, Option.mem_some] at hc
  subst hc
  decide

theorem IsLiteral.join {base path : String} (hbase : IsLiteral base) (hpath : IsLiteral path) :
    IsLiteral (join base path) := by
  by_cases hempty : base = ""
  · rwa [hempty, join_empty_left]
  · cases habsolute : isAbsolute path with
    | true => rwa [join_of_isAbsolute habsolute]
    | false => rwa [IsLiteral, head?_join hempty habsolute]

theorem IsLiteral.parent {path : String} (hpath : IsLiteral path) : IsLiteral (parent path) := by
  rcases parent_eq_empty_or_head?_parent path with hempty | hhead
  · simp [IsLiteral, hempty]
  · rwa [IsLiteral, hhead]

theorem expandHome_of_isLiteral {directories : Directories} {path : String}
    (hpath : IsLiteral path) : expandHome directories path = path := by
  unfold expandHome
  split
  · rename_i hchars
    exact absurd rfl (hpath '~' (by simp [hchars])).1
  · rename_i hchars
    exact absurd rfl (hpath '~' (by simp [hchars])).1
  · rfl

theorem expand_of_isLiteral {directories : Directories} {path : String}
    (hpath : IsLiteral path) (hne : path ≠ "")
    (hend : ∀ c ∈ path.toList.getLast?, Text.isBlank c = false) :
    expand directories path = Path.join directories.current path := by
  have htrim : Text.trim path = path := Text.trim_of_not_isBlank (fun c hc => (hpath c hc).2) hend
  rw [expand, htrim, if_neg (by simpa using hne), expandHome_of_isLiteral hpath]

end Path

end FilterQuery
