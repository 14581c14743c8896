import ChannelRelay.Document.Reader
import ChannelRelay.Proofs.Document.Scalar

/-!
# Written documents

A document of sections is read as it was written, if no two of its sections, and no two entries
of a section, have the same name.

* `Leads d cs d' rest`: from the draft `d`, with `cs` still to read, reading comes to `d'` with
  `rest` still to read;
* `entries_lead`, `sections_lead`: reading comes from a section to the next one;
* `write_eq_some`: what can be written, and as what;
* `read_text`: what was written is read.
-/

namespace ChannelRelay.Document

variable {d d' d'' : Draft} {cs rest rest' : List Char} {key name : String}

/-! ## Reading goes on -/

/-- With at least as much fuel as there are characters, reading goes on to another draft. -/
def Leads (d : Draft) (cs : List Char) (d' : Draft) (rest : List Char) : Prop :=
  ∀ fuel, cs.length ≤ fuel → ∃ fuel', rest.length ≤ fuel' ∧
    readExpressions fuel d cs = readExpressions fuel' d' rest

theorem Leads.refl (d : Draft) (cs : List Char) : Leads d cs d cs :=
  fun fuel enough => ⟨fuel, enough, rfl⟩

theorem Leads.trans (first : Leads d cs d' rest) (next : Leads d' rest d'' rest') :
    Leads d cs d'' rest' := by
  intro fuel enough
  obtain ⟨fuel, enough, same⟩ := first fuel enough
  obtain ⟨fuel', enough', same'⟩ := next fuel enough
  exact ⟨fuel', enough', same.trans same'⟩

/-- Reading goes on by one expression, for which a value needs fuel of its own. -/
theorem Leads.of_expression {c : Char} (notSpace : isSpace c = false)
    (shorter : rest.length ≤ cs.length)
    (expression : ∀ fuel, cs.length ≤ fuel → readExpression fuel d (c :: cs) = some (d', rest)) :
    Leads d (c :: cs) d' rest := by
  intro fuel enough
  cases fuel with
  | zero => cases enough
  | succ fuel =>
    have enough : cs.length ≤ fuel := Nat.le_of_succ_le_succ enough
    refine ⟨fuel, Nat.le_trans shorter enough, ?_⟩
    have skipped : skipSpaces (c :: cs) = c :: cs := by simp [skipSpaces, notSpace]
    rw [readExpressions, skipped]
    simp only [expression fuel enough, Option.bind_eq_bind, Option.bind_some]

/-! ## Names -/

/-- A name that needs no quotes. -/
def IsBare (name : String) : Prop := name ≠ "" ∧ name.toList.all isBareKeyChar

instance (name : String) : Decidable (IsBare name) := inferInstanceAs (Decidable (_ ∧ _))

/-- A bare name begins no other expression than a key, and no quoted name. -/
theorem ne_of_isBareKeyChar {c other : Char} (h : isBareKeyChar c)
    (special : isBareKeyChar other = false) : c ≠ other := by
  rintro rfl
  exact absurd h (by simp [special])

theorem not_isSpace_of_isBareKeyChar {c : Char} (h : isBareKeyChar c) : isSpace c = false := by
  have space : c ≠ ' ' := ne_of_isBareKeyChar h (by decide)
  have tab : c ≠ '\t' := ne_of_isBareKeyChar h (by decide)
  simp [isSpace, space, tab]

theorem IsBare.cons (bare : IsBare name) : ∃ c cs, name.toList = c :: cs ∧ isBareKeyChar c := by
  obtain ⟨nonempty, all⟩ := bare
  cases chars : name.toList with
  | nil => exact absurd (String.toList_eq_nil_iff.mp chars) nonempty
  | cons c cs =>
    rw [chars, List.all_cons, Bool.and_eq_true] at all
    exact ⟨c, cs, rfl, all.1⟩

theorem readSegment_bare (bare : IsBare name) (ends : ∀ c ∈ rest.head?, isBareKeyChar c = false) :
    readSegment (name.toList ++ rest) = some (name, rest) := by
  have stops : rest.takeWhile isBareKeyChar = [] ∧ rest.dropWhile isBareKeyChar = rest := by
    cases rest with
    | nil => exact ⟨rfl, rfl⟩
    | cons c rest => simp [ends c rfl]
  have all := List.all_eq_true.mp bare.2
  have takes : (name.toList ++ rest).takeWhile isBareKeyChar = name.toList := by
    rw [List.takeWhile_append_of_pos all, stops.1, List.append_nil]
  have drops : (name.toList ++ rest).dropWhile isBareKeyChar = rest := by
    rw [List.dropWhile_append_of_pos all, stops.2]
  obtain ⟨c, cs, chars, first⟩ := bare.cons
  rw [chars, List.cons_append] at takes drops ⊢
  rw [readSegment, if_neg (not_or.mpr ⟨ne_of_isBareKeyChar first (by decide),
    ne_of_isBareKeyChar first (by decide)⟩), if_pos first, takes, drops, ← chars,
    String.ofList_toList]

/-- A bare name is a key of one segment, if no dot follows. -/
theorem readKey_bare (bare : IsBare name) (ends : ∀ c ∈ rest.head?, isBareKeyChar c = false)
    (single : ∀ c ∈ (skipSpaces rest).head?, c ≠ '.') :
    readKey (name.toList ++ rest) = some ([name], skipSpaces rest) := by
  have skipped : skipSpaces (name.toList ++ rest) = name.toList ++ rest := by
    obtain ⟨c, cs, chars, first⟩ := bare.cons
    simp [chars, skipSpaces, not_isSpace_of_isBareKeyChar first]
  rw [readKey, nestingLimit, readSegments, skipped, readSegment_bare bare ends]
  simp only [Option.bind_eq_bind, Option.bind_some]
  split
  · rename_i dotted
    rw [dotted] at single
    exact absurd rfl (single '.' rfl)
  · rfl

/-! ## Tables -/

/-- Whether no entry has the name. -/
def IsFresh {α : Type} (key : String) (entries : Entries α) : Prop := key ∉ entries.map Prod.fst

section
variable {α : Type} {entries : Entries α} {a b : α} {e : String × α}

theorem isFresh_cons : IsFresh key (e :: entries) ↔ key ≠ e.1 ∧ IsFresh key entries := by
  simp [IsFresh]

theorem lookup_of_fresh (fresh : IsFresh key entries) : entries.lookup key = none := by
  induction entries with
  | nil => rfl
  | cons e entries ih =>
    obtain ⟨other, fresh⟩ := isFresh_cons.mp fresh
    rw [List.lookup_cons, beq_false_of_ne other]
    exact ih fresh

theorem put_of_fresh (fresh : IsFresh key entries) :
    entries.put key a = entries ++ [(key, a)] := by
  induction entries with
  | nil => rfl
  | cons e entries ih =>
    obtain ⟨other, fresh⟩ := isFresh_cons.mp fresh
    rw [Entries.put, if_neg other.symm, ih fresh]
    rfl

theorem lookup_last (fresh : IsFresh key entries) :
    (entries ++ [(key, a)]).lookup key = some a := by
  induction entries with
  | nil => simp
  | cons e entries ih =>
    obtain ⟨other, fresh⟩ := isFresh_cons.mp fresh
    rw [List.cons_append, List.lookup_cons, beq_false_of_ne other]
    exact ih fresh

theorem put_last (fresh : IsFresh key entries) :
    Entries.put key b (entries ++ [(key, a)]) = entries ++ [(key, b)] := by
  induction entries with
  | nil => exact if_pos rfl
  | cons e entries ih =>
    obtain ⟨other, fresh⟩ := isFresh_cons.mp fresh
    rw [List.cons_append, Entries.put, if_neg other.symm, ih fresh]
    rfl

/-- Different names give different entries. -/
theorem isFresh_of_nodup {β : Type} {name : β → String} {entry : β → String × α} {b : β}
    {earlier later : List β} (named : ∀ b, (entry b).1 = name b)
    (distinct : ((earlier ++ b :: later).map name).Nodup) :
    IsFresh (name b) (earlier.map entry) := by
  have names : (earlier.map entry).map Prod.fst = earlier.map name := by simp [named]
  rw [List.map_append, List.map_cons, List.nodup_append] at distinct
  rw [IsFresh, names]
  exact fun mem => distinct.2.2 _ mem _ List.mem_cons_self rfl

end

/-! ## Expressions -/

theorem endLine?_newline (rest : List Char) : endLine? ('\n' :: rest) = some rest := rfl

theorem blank_leads (d : Draft) (rest : List Char) : Leads d ('\n' :: rest) d rest :=
  Leads.of_expression (by decide) (Nat.le_refl _) fun _ _ => rfl

/-- The beginning of a name begins no other expression than a key with its value. -/
theorem readExpression_bare {c : Char} (fuel : Nat) (d : Draft) (cs : List Char)
    (first : isBareKeyChar c) : readExpression fuel d (c :: cs) = readPair fuel d (c :: cs) := by
  have other {special : Char} (h : isBareKeyChar special = false) : c ≠ special :=
    ne_of_isBareKeyChar first h
  unfold readExpression
  split
  · rename_i same
    exact absurd (List.cons.inj same).1 (other (by decide))
  · rename_i same
    exact absurd (List.cons.inj same).1 (other (by decide))
  · rename_i same
    exact absurd (List.cons.inj same).1 (other (by decide))
  · rename_i same
    exact absurd (List.cons.inj same).1 (other (by decide))
  · rfl

theorem readHeader_bare {c : Char} (d : Draft) (cs : List Char) (first : isBareKeyChar c) :
    readHeader d (c :: cs) = do
      let (key, rest) ← readKey (c :: cs)
      let rest ← expect ']' rest
      return (⟨← d.entries.define key, key⟩, ← endLine? rest) := by
  unfold readHeader
  split
  · rename_i same
    exact absurd (List.cons.inj same).1 (ne_of_isBareKeyChar first (by decide))
  · rfl

theorem header_leads (d : Draft) (rest : List Char) (bare : IsBare name)
    (fresh : IsFresh name d.entries) :
    Leads d ('[' :: (name.toList ++ ']' :: '\n' :: rest))
      ⟨d.entries ++ [(name, .table .header [])], [name]⟩ rest := by
  refine Leads.of_expression (by decide) (by simp; omega) fun fuel _ => ?_
  have key : readKey (name.toList ++ ']' :: '\n' :: rest) = some ([name], ']' :: '\n' :: rest) :=
    readKey_bare bare (by rintro c ⟨⟩; decide) (by rintro c ⟨⟩; decide)
  have table : d.entries.define [name] = some (d.entries ++ [(name, .table .header [])]) := by
    rw [Entries.define, lookup_of_fresh fresh]
    exact congrArg some (put_of_fresh fresh)
  have header : readExpression fuel d ('[' :: (name.toList ++ ']' :: '\n' :: rest)) =
      readHeader d (name.toList ++ ']' :: '\n' :: rest) := rfl
  obtain ⟨c, cs, chars, first⟩ := bare.cons
  rw [chars, List.cons_append] at key header ⊢
  rw [header, readHeader_bare _ _ first, key]
  simp [expect, table, endLine?_newline]

/-- A written value begins neither an array nor an inline table, and not with a space. -/
theorem Scalar.written_cons (v : Scalar) : ∃ c cs, v.written.toList = c :: cs ∧
    isSpace c = false ∧ c ≠ '[' ∧ c ≠ '\x7b' := by
  have digits (n : Nat) : ∃ c cs, n.repr.toList = c :: cs ∧
      isSpace c = false ∧ c ≠ '[' ∧ c ≠ '\x7b' := by
    obtain ⟨d, ds, split⟩ := List.exists_cons_of_ne_nil (Nat.toDigits_ne_nil (n := n) (b := 10))
    have first : d ∈ Nat.toDigits 10 n := split.symm ▸ List.mem_cons_self
    have digit : d.isDigit := Decimal.isDigit_of_mem_toDigits d first
    have other {c : Char} (h : c.isDigit = false) : d ≠ c := Decimal.ne_of_isDigit digit h
    have noSpace : isSpace d = false := by
      simp [isSpace, other (c := ' ') rfl, other (c := '\t') rfl]
    exact ⟨d, ds, by rw [Nat.toList_repr, split], noSpace, other rfl, other rfl⟩
  cases v with
  | text s => exact ⟨quote, _, by simp [Scalar.written, writeString]; rfl, by decide⟩
  | integer n =>
    rw [Scalar.written, Int.toString_eq_repr, Int.repr_eq_if]
    split
    · exact digits _
    · exact ⟨'-', _, by simp; rfl, by decide⟩

theorem readValue_written {v : Scalar} {room : Nat} (fuel : Nat) (writable : v.IsWritable) :
    readValue (fuel + 1) room (v.written.toList ++ '\n' :: rest) =
      some (v.toValue, '\n' :: rest) := by
  have scalar : readScalar (v.written.toList ++ '\n' :: rest) = some (v.toValue, '\n' :: rest) :=
    readScalar_written writable
  obtain ⟨c, cs, chars, -, noArray, noTable⟩ := v.written_cons
  rw [chars, List.cons_append] at scalar ⊢
  unfold readValue
  split
  · rename_i same
    exact absurd (List.cons.inj same).1 noArray
  · rename_i same
    exact absurd (List.cons.inj same).1 noTable
  · exact scalar

/-- An entry goes into the table whose header was read last. -/
theorem entry_leads {before inner : Entries Node} {e : String × Scalar} (rest : List Char)
    (bare : IsBare e.1) (writable : e.2.IsWritable) (here : IsFresh name before)
    (fresh : IsFresh e.1 inner) :
    Leads ⟨before ++ [(name, .table .header inner)], [name]⟩
      (e.1.toList ++ ' ' :: '=' :: ' ' :: (e.2.written.toList ++ '\n' :: rest))
      ⟨before ++ [(name, .table .header (inner ++ [(e.1, .value e.2.toValue)]))], [name]⟩ rest := by
  have key : readKey (e.1.toList ++ ' ' :: '=' :: ' ' :: (e.2.written.toList ++ '\n' :: rest)) =
      some ([e.1], '=' :: ' ' :: (e.2.written.toList ++ '\n' :: rest)) :=
    readKey_bare bare (by rintro c ⟨⟩; decide) (by rintro c ⟨⟩; decide)
  have skipped : skipSpaces (' ' :: (e.2.written.toList ++ '\n' :: rest)) =
      e.2.written.toList ++ '\n' :: rest := by
    obtain ⟨c, cs, chars, noSpace, -, -⟩ := e.2.written_cons
    simp [chars, skipSpaces, noSpace, show isSpace ' ' = true from rfl]
  have assigned : Entries.assign e.2.toValue [e.1] inner =
      some (inner ++ [(e.1, .value e.2.toValue)]) := by
    rw [Entries.assign, lookup_of_fresh fresh]
    exact congrArg some (put_of_fresh fresh)
  have changed : Entries.within (Entries.assign e.2.toValue [e.1]) [name]
      (before ++ [(name, .table .header inner)]) =
      some (before ++ [(name, .table .header (inner ++ [(e.1, .value e.2.toValue)]))]) := by
    rw [Entries.within, lookup_last here]
    simp [Entries.within, assigned, put_last here]
  obtain ⟨c, cs, chars, first⟩ := bare.cons
  rw [chars, List.cons_append] at key ⊢
  refine Leads.of_expression (not_isSpace_of_isBareKeyChar first) (by simp; omega)
    fun fuel enough => ?_
  obtain ⟨fuel, rfl⟩ : ∃ more, fuel = more + 1 := by
    rw [List.length_append, List.length_cons] at enough
    exact Nat.exists_eq_add_one.mpr (by omega)
  rw [readExpression_bare _ _ _ first, readPair, key]
  simp [expect, skipped, readValue_written fuel writable, changed, endLine?_newline]

/-! ## Sections -/

/-- The line of an entry. -/
def entryText (e : String × Scalar) : String := e.1 ++ " = " ++ e.2.written ++ "\n"

/-- The lines of a section, if its entries can be written. -/
def Section.text (sec : Section) : String :=
  "[" ++ sec.name ++ "]\n" ++ String.join (sec.entries.map entryText)

def text (sections : List Section) : String := "\n".intercalate (sections.map Section.text)

/-- What an entry is read as. -/
def entryNode (e : String × Scalar) : String × Node := (e.1, .value e.2.toValue)

def Section.node (sec : Section) : String × Node :=
  (sec.name, .table .header (sec.entries.map entryNode))

def Section.toValue (sec : Section) : String × Value :=
  (sec.name, .table (sec.entries.map fun e => (e.1, e.2.toValue)))

/-- Names that need no quotes, each for one entry of the section. -/
structure Section.IsNamed (sec : Section) : Prop where
  bare : IsBare sec.name
  bareEntries : ∀ e ∈ sec.entries, IsBare e.1
  distinct : (sec.entries.map Prod.fst).Nodup

def Section.IsWritable (sec : Section) : Prop := ∀ e ∈ sec.entries, e.2.IsWritable

section
variable {before : Entries Node} {entries earlier : List (String × Scalar)}
variable {sections done : List Section} {sec : Section}

theorem entries_lead (earlier : List (String × Scalar)) (bare : ∀ e ∈ entries, IsBare e.1)
    (writable : ∀ e ∈ entries, e.2.IsWritable) (here : IsFresh name before)
    (distinct : ((earlier ++ entries).map Prod.fst).Nodup) :
    Leads ⟨before ++ [(name, .table .header (earlier.map entryNode))], [name]⟩
      ((String.join (entries.map entryText)).toList ++ rest)
      ⟨before ++ [(name, .table .header ((earlier ++ entries).map entryNode))], [name]⟩ rest := by
  induction entries generalizing earlier with
  | nil => simpa using Leads.refl _ _
  | cons e entries ih =>
    obtain ⟨bareFirst, bare⟩ := List.forall_mem_cons.mp bare
    obtain ⟨writableFirst, writable⟩ := List.forall_mem_cons.mp writable
    have split : earlier ++ e :: entries = (earlier ++ [e]) ++ entries := by simp
    have fresh : IsFresh e.1 (earlier.map entryNode) := isFresh_of_nodup (fun _ => rfl) distinct
    have lines : (String.join ((e :: entries).map entryText)).toList ++ rest =
        e.1.toList ++ ' ' :: '=' :: ' ' :: (e.2.written.toList ++ '\n' ::
          ((String.join (entries.map entryText)).toList ++ rest)) := by
      simp [entryText]
    rw [lines, split]
    rw [split] at distinct
    have first := entry_leads ((String.join (entries.map entryText)).toList ++ rest)
      bareFirst writableFirst here fresh
    have others := ih (earlier ++ [e]) bare writable distinct
    rw [List.map_append] at others
    exact first.trans others

theorem section_leads (rest : List Char) (named : sec.IsNamed) (writable : sec.IsWritable)
    (fresh : IsFresh sec.name before) (current : List String) :
    Leads ⟨before, current⟩ (sec.text.toList ++ rest) ⟨before ++ [sec.node], [sec.name]⟩ rest := by
  have lines : sec.text.toList ++ rest = '[' :: (sec.name.toList ++ ']' :: '\n' ::
      ((String.join (sec.entries.map entryText)).toList ++ rest)) := by
    simp [Section.text]
  rw [lines]
  have header := header_leads ⟨before, current⟩
    ((String.join (sec.entries.map entryText)).toList ++ rest) named.bare fresh
  exact header.trans (entries_lead [] named.bareEntries writable fresh named.distinct)

/-- An empty line ends the document. -/
theorem sections_lead (done : List Section) (rest : List Char)
    (named : ∀ sec ∈ sections, sec.IsNamed)
    (writable : ∀ sec ∈ sections, sec.IsWritable)
    (distinct : ((done ++ sections).map Section.name).Nodup) (current : List String) :
    ∃ current', Leads ⟨done.map Section.node, current⟩ ((text sections).toList ++ '\n' :: rest)
      ⟨(done ++ sections).map Section.node, current'⟩ rest := by
  induction sections generalizing done current with
  | nil => exact ⟨current, by simpa [text] using blank_leads _ _⟩
  | cons sec sections ih =>
    obtain ⟨namedFirst, named⟩ := List.forall_mem_cons.mp named
    obtain ⟨writableFirst, writable⟩ := List.forall_mem_cons.mp writable
    have split : done ++ sec :: sections = (done ++ [sec]) ++ sections := by simp
    have fresh : IsFresh sec.name (done.map Section.node) :=
      isFresh_of_nodup (fun _ => rfl) distinct
    have through (more : List Char) :=
      (section_leads ('\n' :: more) namedFirst writableFirst fresh current).trans
        (blank_leads _ _)
    rw [split] at distinct ⊢
    have others := ih (done ++ [sec]) named writable distinct [sec.name]
    rw [List.map_append] at others
    cases sections with
    | nil => exact ⟨_, by simpa [text] using through rest⟩
    | cons next sections =>
      obtain ⟨current', others⟩ := others
      refine ⟨current', ?_⟩
      have lines : (text (sec :: next :: sections)).toList ++ '\n' :: rest =
          sec.text.toList ++ '\n' :: ((text (next :: sections)).toList ++ '\n' :: rest) := by
        simp [text]
      rw [lines]
      exact (through _).trans others

end

/-! ## Documents -/

section
variable {sections : List Section} {sec : Section} {s : String}

/-- What is made of a writable part can be written as well. -/
theorem bind_eq_some_iff {α β : Type} {part : Option α} {possible : Prop} {a : α}
    (each : ∀ x, part = some x ↔ possible ∧ x = a) (f : α → β) (b : β) :
    (part >>= fun x => pure (f x)) = some b ↔ possible ∧ b = f a := by
  simp only [Option.bind_eq_bind, Option.bind_eq_some_iff, each, Option.pure_def,
    Option.some.injEq]
  constructor
  · rintro ⟨_, ⟨here, rfl⟩, rfl⟩
    exact ⟨here, rfl⟩
  · rintro ⟨here, rfl⟩
    exact ⟨_, ⟨here, rfl⟩, rfl⟩

/-- A list is written if each of its members can be, and then one by one. -/
theorem mapM_eq_some_iff {α β : Type} {write : α → Option β} {possible : α → Prop} {written : α → β}
    (each : ∀ a b, write a = some b ↔ possible a ∧ b = written a) (as : List α) (bs : List β) :
    as.mapM write = some bs ↔ (∀ a ∈ as, possible a) ∧ bs = as.map written := by
  induction as generalizing bs with
  | nil => simp [eq_comm]
  | cons a as ih =>
    simp only [List.mapM_cons, Option.bind_eq_bind, Option.bind_eq_some_iff, each, ih,
      List.forall_mem_cons, List.map_cons, Option.pure_def, Option.some.injEq]
    constructor
    · rintro ⟨b, ⟨first, rfl⟩, bs, ⟨others, rfl⟩, rfl⟩
      exact ⟨⟨first, others⟩, rfl⟩
    · rintro ⟨⟨first, others⟩, rfl⟩
      exact ⟨_, ⟨first, rfl⟩, _, ⟨others, rfl⟩, rfl⟩

theorem writeEntry_eq_some (e : String × Scalar) (s : String) :
    writeEntry e = some s ↔ e.2.IsWritable ∧ s = entryText e :=
  bind_eq_some_iff (fun _ => Scalar.write_eq_some) (fun v => e.1 ++ " = " ++ v ++ "\n") s

theorem Section.write_eq_some (sec : Section) (s : String) :
    sec.write = some s ↔ sec.IsWritable ∧ s = sec.text :=
  bind_eq_some_iff (mapM_eq_some_iff writeEntry_eq_some sec.entries)
    (fun lines => "[" ++ sec.name ++ "]\n" ++ String.join lines) s

/-- A document is written if all its values can be. -/
theorem write_eq_some (sections : List Section) (s : String) :
    write sections = some s ↔ (∀ sec ∈ sections, sec.IsWritable) ∧ s = text sections :=
  bind_eq_some_iff (mapM_eq_some_iff Section.write_eq_some sections) "\n".intercalate s

theorem entryValues_map_entryNode (entries : List (String × Scalar)) :
    Node.entryValues (entries.map entryNode) = entries.map fun e => (e.1, e.2.toValue) := by
  induction entries with
  | nil => rfl
  | cons e entries ih =>
    simp only [List.map_cons, entryNode, Node.entryValues, Node.toValue]
    exact congrArg _ ih

theorem entryValues_map_node (sections : List Section) :
    Node.entryValues (sections.map Section.node) = sections.map Section.toValue := by
  induction sections with
  | nil => rfl
  | cons sec sections ih =>
    simp only [List.map_cons, Section.node, Node.entryValues, Node.toValue,
      entryValues_map_entryNode]
    exact congrArg _ ih

/-- A document does not begin with a byte order mark. -/
theorem dropByteOrderMark_text (sections : List Section) :
    dropByteOrderMark ((text sections).toList ++ ['\n']) = (text sections).toList ++ ['\n'] := by
  have first : ∃ c cs, (text sections).toList ++ ['\n'] = c :: cs ∧ c.toNat ≠ 0xFEFF := by
    cases sections with
    | nil => exact ⟨'\n', [], by simp [text], by decide⟩
    | cons sec sections =>
      cases sections with
      | nil => exact ⟨'[', _, by simp [text, Section.text]; rfl, by decide⟩
      | cons => exact ⟨'[', _, by simp [text, Section.text]; rfl, by decide⟩
  obtain ⟨c, cs, chars, noMark⟩ := first
  rw [chars, dropByteOrderMark, if_neg noMark]

/-- What was written is read, and an empty line after it does not matter. -/
theorem read_text (named : ∀ sec ∈ sections, sec.IsNamed)
    (writable : ∀ sec ∈ sections, sec.IsWritable) (distinct : (sections.map Section.name).Nodup) :
    read (text sections ++ "\n") = some (sections.map Section.toValue) := by
  obtain ⟨current, leads⟩ := sections_lead [] [] named writable distinct []
  obtain ⟨fuel, -, through⟩ := leads _ (Nat.le_refl _)
  have ends : readExpressions fuel ⟨sections.map Section.node, current⟩ [] =
      some ⟨sections.map Section.node, current⟩ := by
    cases fuel <;> rfl
  have chars : (text sections ++ "\n").toList = (text sections).toList ++ ['\n'] := by simp
  rw [read, chars, dropByteOrderMark_text]
  simp only [List.map_nil, List.nil_append] at through
  rw [through, ends]
  simp [entryValues_map_node]

end

end ChannelRelay.Document
