import Mathlib.Data.List.Infix
import MarkupCleaner.Markup.StartTag

/-!
# Places in component source

How a reader of component source goes over it, character by character: between tags, in a tag, in a quoted
value, or in an expression, where braces nest and strings and comments hide them. Every character carries
along whether the writer put it there as the delimiter of an expression or a comment of its own. What the
reader takes for such a delimiter should be one.
-/

namespace MarkupCleaner.Output

/-- Where a reader is in an expression. -/
inductive CodePlace where
  | plain
  | slash
  | comment
  | star
  | line
  | string (quote : Char)
  | escape (quote : Char)
deriving DecidableEq, Repr

/-- Where a reader is: between tags, in a tag, behind an equals sign in a tag, in a quoted value, or in an
expression with `depth` braces open inside it. -/
inductive Place where
  | content
  | tag
  | equals
  | value (quote : Char)
  | code (inTag : Bool) (depth : Nat) (part : CodePlace)
deriving DecidableEq, Repr

namespace Place

/-- Behind a closing brace in an expression. -/
def afterBrace (inTag : Bool) : Nat → Place
  | 0 => if inTag then .tag else .content
  | depth + 1 => .code inTag depth .plain

/-- Behind a character that stands in an expression outside its strings and comments. -/
def nextPlain (inTag : Bool) (depth : Nat) (c : Char) : Place :=
  if c = '{' then .code inTag (depth + 1) .plain
  else if c = '}' then afterBrace inTag depth
  else if c = '/' then .code inTag depth .slash
  else if Markup.isQuote c || c = '`' then .code inTag depth (.string c)
  else .code inTag depth .plain

/-- Behind a character that stands in a tag outside its values. -/
def nextInTag (c : Char) : Place :=
  if c = '>' then .content
  else if c = '=' then .equals
  else if c = '{' then .code true 0 .plain
  else .tag

/-- Behind a character. -/
def next : Place → Char → Place
  | .content, c => if c = '<' then .tag else if c = '{' then .code false 0 .plain else .content
  | .tag, c => nextInTag c
  | .equals, c => if Markup.isQuote c then .value c else nextInTag c
  | .value quote, c => if c = quote then .tag else .value quote
  | .code inTag depth .plain, c => nextPlain inTag depth c
  | .code inTag depth .slash, c =>
    if c = '*' then .code inTag depth .comment
    else if c = '/' then .code inTag depth .line
    else nextPlain inTag depth c
  | .code inTag depth .comment, c => .code inTag depth (if c = '*' then .star else .comment)
  | .code inTag depth .star, c =>
    .code inTag depth (if c = '/' then .plain else if c = '*' then .star else .comment)
  | .code inTag depth .line, c => .code inTag depth (if c = '\n' then .plain else .line)
  | .code inTag depth (.string quote), c =>
    .code inTag depth (if c = '\\' then .escape quote else if c = quote then .plain else .string quote)
  | .code inTag depth (.escape quote), _ => .code inTag depth (.string quote)

/-- Whether a character opens an expression or ends a comment here. -/
def delimits : Place → Char → Bool
  | .content, c => c = '{'
  | .tag, c => c = '{'
  | .equals, c => c = '{'
  | .code _ _ .star, c => c = '/'
  | _, _ => false

end Place

/-- Written characters, each with whether it is a delimiter of an expression or a comment of the writer. -/
abbrev Marked := List (Char × Bool)

/-- Characters that are no delimiters of the writer. -/
def foreign (cs : List Char) : Marked := cs.map fun c => (c, false)

theorem foreign_append (cs ds : List Char) : foreign (cs ++ ds) = foreign cs ++ foreign ds :=
  List.map_append

@[simp] theorem map_fst_foreign (cs : List Char) : (foreign cs).map Prod.fst = cs := by
  rw [foreign, List.map_map]
  exact List.map_id cs

/-- Behind written characters. -/
def placeAfter (p : Place) (ms : Marked) : Place := ms.foldl (fun q m => q.next m.1) p

/-- Whatever the reader takes for the start of an expression or the end of a comment is one of the
writer. -/
def HasOwnDelimiters (p : Place) (ms : Marked) : Prop :=
  ∀ front c own back, ms = front ++ (c, own) :: back → (placeAfter p front).delimits c = true → own = true

/-- The delimiters checked one after the other. -/
def ownsDelimiters : Place → Marked → Bool
  | _, [] => true
  | p, (c, own) :: ms => (!p.delimits c || own) && ownsDelimiters (p.next c) ms

theorem placeAfter_append (p : Place) (ms ns : Marked) :
    placeAfter p (ms ++ ns) = placeAfter (placeAfter p ms) ns := List.foldl_append

theorem ownsDelimiters_append (p : Place) (ms ns : Marked) :
    ownsDelimiters p (ms ++ ns) = (ownsDelimiters p ms && ownsDelimiters (placeAfter p ms) ns) := by
  induction ms generalizing p with
  | nil => rfl
  | cons m ms ih =>
    rw [List.cons_append, ownsDelimiters, ownsDelimiters, ih, Bool.and_assoc]
    rfl

theorem ownsDelimiters_iff (p : Place) (ms : Marked) :
    ownsDelimiters p ms = true ↔ HasOwnDelimiters p ms := by
  constructor
  · rintro h front c own back rfl hdelimits
    rw [ownsDelimiters_append, ownsDelimiters, hdelimits] at h
    simp only [Bool.not_true, Bool.false_or, Bool.and_eq_true] at h
    exact h.2.1
  · intro h
    induction ms generalizing p with
    | nil => rfl
    | cons m ms ih =>
      obtain ⟨c, own⟩ := m
      rw [ownsDelimiters, Bool.and_eq_true]
      constructor
      · cases hdelimits : p.delimits c with
        | false => rfl
        | true => exact h [] c own ms rfl hdelimits
      · refine ih (p.next c) fun front d own' back hms hdelimits => ?_
        exact h ((c, own) :: front) d own' back (congrArg ((c, own) :: ·) hms) hdelimits

instance (p : Place) (ms : Marked) : Decidable (HasOwnDelimiters p ms) :=
  decidable_of_iff _ (ownsDelimiters_iff p ms)

/-! ## Pieces -/

/-- A piece that starts at `p` has no foreign delimiters exactly if it is good, and then leads to `q`. -/
structure Decides (p : Place) (ms : Marked) (q : Place) (good : Prop) : Prop where
  owns_iff : ownsDelimiters p ms = true ↔ good
  leads : good → placeAfter p ms = q

namespace Decides

variable {p q r : Place} {ms ns : Marked} {good good' : Prop}

theorem congr (h : Decides p ms q good) (hiff : good ↔ good') : Decides p ms q good' :=
  ⟨h.owns_iff.trans hiff, fun hgood => h.leads (hiff.2 hgood)⟩

theorem nil (p : Place) : Decides p [] p True := ⟨by simp [ownsDelimiters], fun _ => rfl⟩

/-- One piece after the other. The second is only looked at if the first is good, since only then it is
known where it starts. -/
theorem append (h : Decides p ms q good) (h' : Decides q ns r good') :
    Decides p (ms ++ ns) r (good ∧ good') := by
  constructor
  case owns_iff =>
    rw [ownsDelimiters_append, Bool.and_eq_true, h.owns_iff]
    refine and_congr_right fun hgood => ?_
    rw [h.leads hgood]
    exact h'.owns_iff
  case leads =>
    rintro ⟨hgood, hgood'⟩
    rw [placeAfter_append, h.leads hgood, h'.leads hgood']

/-- Pieces of a known form before and after leave it to the one between them. -/
theorem between {o : Place} {before after : Marked} (hbefore : Decides o before p True)
    (h : Decides p ms q good) (hafter : Decides q after r True) :
    Decides o (before ++ ms ++ after) r good :=
  ((hbefore.append h).append hafter).congr (by simp)

/-- A piece whose characters are fixed. -/
theorem of_eq (howns : ownsDelimiters p ms = true) (hleads : placeAfter p ms = q) :
    Decides p ms q True :=
  ⟨iff_of_true howns trivial, fun _ => hleads⟩

/-- A run that stays where it is, unless it opens an expression. -/
theorem run {cs : List Char} (hopen : ∀ c, p.delimits c = decide (c = '{'))
    (hstay : ∀ c ∈ cs, c ≠ '{' → p.next c = p) : Decides p (foreign cs) p ('{' ∉ cs) := by
  induction cs with
  | nil => exact (Decides.nil p).congr (by simp)
  | cons c cs ih =>
    obtain ⟨howns, hleads⟩ := ih fun d hd => hstay d (List.mem_cons_of_mem c hd)
    have hc := hstay c List.mem_cons_self
    by_cases hbrace : c = '{'
    · have hnot : ¬('{' ∉ c :: cs) := by simp [hbrace]
      refine ⟨iff_of_false ?_ hnot, fun hgood => absurd hgood hnot⟩
      simp [foreign, ownsDelimiters, hopen, hbrace]
    · have hmem : '{' ∉ c :: cs ↔ '{' ∉ cs := by simp [Ne.symm hbrace]
      constructor
      case owns_iff =>
        rw [hmem, ← howns]
        simp [foreign, ownsDelimiters, hopen, hbrace, hc hbrace]
      case leads =>
        intro hgood
        have htail : placeAfter (p.next c) (foreign cs) = p := by
          rw [hc hbrace]
          exact hleads (hmem.1 hgood)
        exact htail

/-- One character before the others that is no delimiter. -/
theorem cons {c : Char} {cs : List Char} (hc : p.delimits c = false)
    (h : Decides (p.next c) (foreign cs) q good) : Decides p (foreign (c :: cs)) q good := by
  constructor
  case owns_iff =>
    rw [← h.owns_iff]
    simp [foreign, ownsDelimiters, hc]
  case leads => exact h.leads

end Decides

/-- Characters that are read without leaving the place, none of them as a delimiter. -/
def Keeps (p : Place) (cs : List Char) : Prop := Decides p (foreign cs) p True

namespace Keeps

variable {p q r : Place}

theorem nil (p : Place) : Keeps p [] := Decides.nil p

theorem append {cs ds : List Char} (h : Keeps p cs) (h' : Keeps p ds) : Keeps p (cs ++ ds) := by
  have happend := Decides.append h h'
  rw [← foreign_append] at happend
  exact happend.congr and_self_iff

/-- Characters before and after that enter another place and leave it again. -/
theorem wrap {before cs after : List Char} (hbefore : Decides p (foreign before) q True) (h : Keeps q cs)
    (hafter : Decides q (foreign after) p True) : Keeps p (before ++ cs ++ after) := by
  have hwhole := Decides.between hbefore h hafter
  rw [← foreign_append, ← foreign_append] at hwhole
  exact hwhole

/-- A run where nothing is a delimiter and no character leaves. -/
theorem of_stays {cs : List Char} (hquiet : ∀ c, p.delimits c = false) (hstay : ∀ c ∈ cs, p.next c = p) :
    Keeps p cs := by
  induction cs with
  | nil => exact nil p
  | cons c cs ih =>
    refine Decides.cons (hquiet c) ?_
    rw [hstay c List.mem_cons_self]
    exact ih fun d hd => hstay d (List.mem_cons_of_mem c hd)

end Keeps

end MarkupCleaner.Output
