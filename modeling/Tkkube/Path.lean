import Mathlib.Data.List.Basic

/-!
# POSIX paths

`pathlib.Path` as the restore code uses it: a path is an optional root and a list of parts.  Parsing
drops empty and `.` parts (so repeated and trailing slashes disappear) and keeps `..` as a part, and
`a / b` is `b` when `b` is absolute and otherwise appends `b`'s parts to `a`'s.  pathlib's special
case of exactly two leading slashes is not modelled.

`os.path.expandvars` and `os.path.expanduser` of `posixpath` work on the text of a path.  The
environment is a function from names to values, and the password database a function from a user
name (`none` for the current user) to a home directory.
-/

namespace Tkkube

/-- A parsed POSIX path. -/
structure Path where
  absolute : Bool
  parts : List String
  deriving DecidableEq, Repr

namespace Path

/-- The `/`-separated fields of a text, each with its characters. -/
def fields : List Char → List (List Char)
  | [] => [[]]
  | c :: rest =>
      match fields rest with
      | [] => [[c]]
      | field :: more => if c = '/' then [] :: field :: more else (c :: field) :: more

/-- `PurePosixPath(text)`. -/
def parse (text : String) : Path where
  absolute := text.data.head? = some '/'
  parts := ((fields text.data).filter fun f => f ≠ [] ∧ f ≠ ['.']).map String.mk

/-- `a / b` for two paths. -/
def join (a b : Path) : Path :=
  if b.absolute then b else ⟨a.absolute, a.parts ++ b.parts⟩

/-- `a / text`. -/
def div (a : Path) (text : String) : Path :=
  a.join (parse text)

/-- `str(path)`. -/
def render (p : Path) : String :=
  match p.absolute, p.parts with
  | true, parts => "/" ++ "/".intercalate parts
  | false, [] => "."
  | false, parts => "/".intercalate parts

/-! ## Parsing joined texts -/

theorem fields_ne_nil (text : List Char) : fields text ≠ [] := by
  cases text with
  | nil => simp [fields]
  | cons c rest => simp only [fields]; split <;> (try split) <;> simp

/-- Splitting distributes over a slash. -/
theorem fields_append_slash (a b : List Char) : fields (a ++ '/' :: b) = fields a ++ fields b := by
  induction a with
  | nil =>
      obtain ⟨f, more, h⟩ := List.exists_cons_of_ne_nil (fields_ne_nil b)
      simp [fields, h]
  | cons c a ih =>
      obtain ⟨f, more, h⟩ := List.exists_cons_of_ne_nil (fields_ne_nil a)
      rw [List.cons_append, fields, fields, ih, h]
      by_cases hc : c = '/' <;> simp [hc]

/-- A text without a slash is one field. -/
theorem fields_of_not_mem {text : List Char} (h : '/' ∉ text) : fields text = [text] := by
  induction text with
  | nil => rfl
  | cons c rest ih =>
      rw [List.mem_cons, not_or] at h
      simp [fields, ih h.2, Ne.symm h.1]

/-- The parts of `f"{a}/{b}"` are those of `a` and then those of `b`. -/
theorem parse_parts_append_slash (a b : String) :
    (parse (a ++ "/" ++ b)).parts = (parse a).parts ++ (parse b).parts := by
  simp only [parse, String.data_append]
  rw [List.append_assoc, show "/".data ++ b.data = '/' :: b.data from rfl, fields_append_slash,
    List.filter_append, List.map_append]

/-- A text is absolute exactly when its first character is a slash. -/
theorem parse_absolute_append {a : String} (b : String) (ha : a ≠ "") :
    (parse (a ++ b)).absolute = (parse a).absolute := by
  obtain ⟨c, rest, hc⟩ := List.exists_cons_of_ne_nil (mt String.ext ha : a.data ≠ [])
  simp [parse, String.data_append, hc]

/-- A text without a slash, other than `""` and `.`, is one part. -/
theorem parse_parts_of_not_mem {text : String} (h : '/' ∉ text.data) (hne : text ≠ "")
    (hdot : text ≠ ".") : (parse text).parts = [text] := by
  have hd : text.data ≠ [] := mt String.ext hne
  have hd' : text.data ≠ ['.'] := mt String.ext hdot
  simp [parse, fields_of_not_mem h, hd, hd']

theorem div_of_relative (a : Path) {text : String} (h : (parse text).absolute = false) :
    a.div text = ⟨a.absolute, a.parts ++ (parse text).parts⟩ := by
  simp [div, join, h]

theorem div_of_absolute (a : Path) {text : String} (h : (parse text).absolute = true) :
    a.div text = parse text := by
  simp [div, join, h]

/-! ## Containment -/

/-- `p` is `base` or lies below it: the same root, `base`'s parts first, and no `..` among the
parts after them that could climb back out of `base`. -/
def Within (base p : Path) : Prop :=
  p.absolute = base.absolute ∧ ∃ rest, p.parts = base.parts ++ rest ∧ ".." ∉ rest

instance (base p : Path) : Decidable (Within base p) :=
  decidable_of_iff (p.absolute = base.absolute ∧ base.parts <+: p.parts ∧
      ".." ∉ p.parts.drop base.parts.length)
    ⟨fun ⟨ha, ⟨rest, hr⟩, hd⟩ => ⟨ha, rest, hr.symm, by rwa [← hr, List.drop_left] at hd⟩,
      fun ⟨ha, rest, hr, hd⟩ => ⟨ha, ⟨rest, hr.symm⟩, by rwa [hr, List.drop_left]⟩⟩

theorem Within.refl (p : Path) : Within p p := ⟨rfl, [], by simp, List.not_mem_nil _⟩

theorem Within.trans {a b c : Path} (hab : Within a b) (hbc : Within b c) : Within a c := by
  obtain ⟨ha, r, hr, hd⟩ := hab
  obtain ⟨hb, r', hr', hd'⟩ := hbc
  refine ⟨hb.trans ha, r ++ r', by rw [hr', hr, List.append_assoc], ?_⟩
  rw [List.mem_append, not_or]
  exact ⟨hd, hd'⟩

/-- Joining a relative text without `..` parts stays below. -/
theorem within_div (a : Path) {text : String} (h : (parse text).absolute = false)
    (hd : ".." ∉ (parse text).parts) : Within a (a.div text) :=
  ⟨by rw [div_of_relative a h], _, by rw [div_of_relative a h], hd⟩

/-- Two different parts below one path name disjoint subtrees. -/
theorem not_within_of_parts {a : Path} {x y : String} (hxy : x ≠ y) {p : Path}
    (hx : Within ⟨a.absolute, a.parts ++ [x]⟩ p) : ¬ Within ⟨a.absolute, a.parts ++ [y]⟩ p := by
  rintro ⟨-, r', hr', -⟩
  obtain ⟨-, r, hr, -⟩ := hx
  rw [hr, List.append_assoc, List.append_assoc, List.append_right_inj, List.singleton_append,
    List.singleton_append, List.cons.injEq] at hr'
  exact hxy hr'.1

/-! ## Expanding variables and the home directory -/

/-- A character of `\w` under `re.ASCII`. -/
def isWordChar (c : Char) : Bool :=
  c.isAlphanum || c = '_'

/-- The text of a `$name` or `${name}` reference: the value of `name` when it is set, and the
reference itself otherwise. -/
def substitute (env : String → Option String) (name reference : List Char) : List Char :=
  match env (String.mk name) with
  | some value => value.data
  | none => reference

/-- The scan of `expandvars` over the rest of a text.  At each `$` the pattern
`\$(\w+|\{[^}]*\})` is tried; a match is replaced by `substitute`, and the scan goes on after the
match, so a substituted value is never expanded again.  A `$` that starts no match stays. -/
def expandFrom (env : String → Option String) : List Char → List Char
  | [] => []
  | '$' :: '{' :: body =>
      if '}' ∈ body then
        let name := body.takeWhile (· ≠ '}')
        substitute env name ('$' :: '{' :: name ++ ['}']) ++
          expandFrom env (body.drop (name.length + 1))
      else '$' :: expandFrom env ('{' :: body)
  | '$' :: rest =>
      let name := rest.takeWhile isWordChar
      if name = [] then '$' :: expandFrom env rest
      else substitute env name ('$' :: name) ++ expandFrom env (rest.drop name.length)
  | c :: rest => c :: expandFrom env rest
termination_by text => text.length

/-- `os.path.expandvars(path)`. -/
def expandvars (env : String → Option String) (path : String) : String :=
  if '$' ∈ path.data then String.mk (expandFrom env path.data) else path

/-- `os.path.expanduser(path)`.  `~` and `~/...` take `HOME`, or the current user's home when
`HOME` is unset; `~user` takes that user's home.  Without a home the path is returned as it is;
otherwise the home loses its trailing slashes and the result is `/` if it would be empty. -/
def expanduser (env : String → Option String) (passwd : Option String → Option String)
    (path : String) : String :=
  match path.data with
  | '~' :: rest =>
      let name := rest.takeWhile (· ≠ '/')
      let home := if name = [] then (env "HOME").orElse fun _ => passwd none
        else passwd (some (String.mk name))
      match home with
      | none => path
      | some home =>
          let expanded := (home.data.reverse.dropWhile (· = '/')).reverse ++ rest.drop name.length
          if expanded = [] then "/" else String.mk expanded
  | _ => path

theorem expandFrom_cons_of_ne {env : String → Option String} {c : Char} (rest : List Char)
    (h : c ≠ '$') : expandFrom env (c :: rest) = c :: expandFrom env rest := by
  rw [expandFrom.eq_def]
  split <;> simp_all

theorem expandFrom_of_not_mem (env : String → Option String) (text : List Char)
    (h : '$' ∉ text) : expandFrom env text = text := by
  induction text with
  | nil => simp [expandFrom]
  | cons c rest ih =>
      rw [List.mem_cons, not_or] at h
      rw [expandFrom_cons_of_ne rest (Ne.symm h.1), ih h.2]

/-- A text without `$` is left as it is. -/
@[simp] theorem expandvars_of_not_mem {env : String → Option String} {path : String}
    (h : '$' ∉ path.data) : expandvars env path = path := by
  simp [expandvars, h]

/-- A path that does not start with `~` is left as it is. -/
theorem expanduser_of_head (env : String → Option String) (passwd : Option String → Option String)
    {path : String} (h : path.data.head? ≠ some '~') : expanduser env passwd path = path := by
  unfold expanduser
  split
  · rename_i rest hp; simp [hp] at h
  · rfl

end Path

end Tkkube
