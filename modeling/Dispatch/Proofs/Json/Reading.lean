import Dispatch.Proofs.Json.Strings
import Dispatch.Proofs.Number.Text

/-!
# Written values are read back

The text of a value is read as the document of the value, in which only the binary64 numbers stand
for what a reader makes of their texts (`Doc.read?_render`).  A value's text ends where the value
ends, whatever follows it, so no text is written of two values (`render_injective`).
-/

namespace Dispatch.Json

mutual

/-- The document of a value when binary64 numbers are read in a given way. -/
def docBy (read : Double → Option Double) : Json → Doc
  | .null => .null
  | .bool b => .bool b
  | .int i => .int i
  | .float d => ((read d).map .float).getD .unreadable
  | .str s => .str s
  | .arr items => .arr (docsBy read items)
  | .obj members => .obj (memberDocsBy read members)

/-- The documents of the items. -/
def docsBy (read : Double → Option Double) : List Json → List Doc
  | [] => []
  | item :: rest => item.docBy read :: docsBy read rest

/-- The documents of the members. -/
def memberDocsBy (read : Double → Option Double) :
    List (String × Json) → List (Option String × Doc)
  | [] => []
  | (name, value) :: rest => (some name, value.docBy read) :: memberDocsBy read rest

end

mutual

/-- A value as programs hold it: integers are those of a word, with or without a sign, and an
object has each name once. -/
def Proper : Json → Prop
  | .int i => -9223372036854775808 ≤ i ∧ i ≤ 18446744073709551615
  | .arr items => ProperItems items
  | .obj members => (members.map (·.1)).Nodup ∧ ProperMembers members
  | _ => True

/-- Every item is proper. -/
def ProperItems : List Json → Prop
  | [] => True
  | item :: rest => item.Proper ∧ ProperItems rest

/-- Every member is proper. -/
def ProperMembers : List (String × Json) → Prop
  | [] => True
  | (_, value) :: rest => value.Proper ∧ ProperMembers rest

end

/-! ## The shape of texts -/

open Reader

theorem toList_render_arr (items : List Json) :
    (Json.arr items).render.toList = '[' :: ((renderItems items).toList ++ [']']) := by
  simp only [render, String.toList_append]
  rfl

theorem toList_render_obj (members : List (String × Json)) :
    (Json.obj members).render.toList = '\x7b' :: ((renderMembers members).toList ++ ['\x7d']) := by
  simp only [render, String.toList_append]
  rfl

theorem toList_renderItems_cons (item next : Json) (rest : List Json) :
    (renderItems (item :: next :: rest)).toList =
      item.render.toList ++ ',' :: (renderItems (next :: rest)).toList := by
  rw [renderItems, String.toList_append, String.toList_append, List.append_assoc]
  rfl
  simp

/-- A name with its quotes and the colon behind it. -/
def nameText (name : String) : List Char := '"' :: (name.toList.flatMap stringChar ++ ['"', ':'])

theorem toList_renderMembers_single (name : String) (value : Json) :
    (renderMembers [(name, value)]).toList = nameText name ++ value.render.toList := by
  simp only [renderMembers, String.toList_append, toList_stringText, nameText]
  simp

theorem toList_renderMembers_cons (name : String) (value : Json) (next : String × Json)
    (rest : List (String × Json)) :
    (renderMembers ((name, value) :: next :: rest)).toList =
      nameText name ++ (value.render.toList ++ ',' :: (renderMembers (next :: rest)).toList) := by
  rw [renderMembers]
  · simp only [String.toList_append, toList_stringText, nameText]
    simp
  · simp

/-- A text starts with no blank and is not the end of a list. -/
theorem render_cons (j : Json) :
    ∃ c cs, j.render.toList = c :: cs ∧ isSpace c = false ∧ c ≠ ']' := by
  cases j with
  | null => exact ⟨_, _, rfl, by decide, by decide⟩
  | bool b => cases b <;> exact ⟨_, _, rfl, by decide, by decide⟩
  | int i =>
    obtain ⟨c, cs, hcs, hc⟩ := toString_cons i
    exact ⟨c, cs, hcs, hc.isSpace_eq, hc.ne (by decide) (by decide)⟩
  | float d =>
    obtain ⟨c, cs, hcs, hc⟩ := d.text_cons
    exact ⟨c, cs, hcs, hc.isSpace_eq, hc.ne (by decide) (by decide)⟩
  | str s => exact ⟨_, _, toList_stringText s, by decide, by decide⟩
  | arr items => exact ⟨_, _, toList_render_arr items, by decide, by decide⟩
  | obj members => exact ⟨_, _, toList_render_obj members, by decide, by decide⟩

/-! ## Reading -/

section Read

variable {fuel : ℕ} {rest : List Char}

theorem skip_cons {c : Char} (hc : isSpace c = false) (cs : List Char) :
    skip (c :: cs) = c :: cs :=
  List.dropWhile_cons_of_neg (by simp [hc])

/-- A value that starts no container is a leaf. -/
theorem value?_leaf {c : Char} {cs : List Char} (hc : isSpace c = false) (harr : c ≠ '[')
    (hobj : c ≠ '\x7b') : value? (fuel + 1) (c :: cs) = leaf? (c :: cs) := by
  rw [value?, skip_cons hc]
  split
  case h_1 heq => exact absurd (List.cons.inj heq).1 harr
  case h_2 heq => exact absurd (List.cons.inj heq).1 hobj
  case h_3 => rfl

theorem value?_number {cs : List Char} (hcs : ∃ c cs', cs = c :: cs' ∧ StartsNumber c)
    {result : Doc × List Char} (h : leaf? (cs ++ rest) = some result) :
    value? (fuel + 1) (cs ++ rest) = some result := by
  obtain ⟨c, cs, rfl, hc⟩ := hcs
  rw [List.cons_append] at h ⊢
  rw [value?_leaf hc.isSpace_eq (hc.ne (by decide) (by decide)) (hc.ne (by decide) (by decide)), h]

theorem leaf?_stringText (s : String) (rest : List Char) :
    leaf? ((stringText s).toList ++ rest) = some (.str s, rest) := by
  have happ : (stringText s).toList ++ rest =
      '"' :: (s.toList.flatMap stringChar ++ '"' :: rest) := by
    rw [toList_stringText, List.cons_append, List.append_assoc, List.singleton_append]
  rw [happ]
  show ((text? (s.toList.flatMap stringChar ++ '"' :: rest)).map fun p =>
    ((p.1.map Doc.str).getD .unreadable, p.2)) = _
  rw [text?_stringChars]
  rfl

/-- A value ends at a comma or at the end of what it is in. -/
theorem endsNumber_cons {c : Char} (hc : c = ',' ∨ c = ']' ∨ c = '\x7d') (cs : List Char) :
    EndsNumber (c :: cs) := by
  intro x hx
  obtain rfl : c = x := by simpa using hx
  rcases hc with rfl | rfl | rfl <;> decide

theorem items?_cons {item : Doc} {cs cs' : List Char} (h : value? fuel cs = some (item, cs')) :
    items? (fuel + 1) cs = match skip cs' with
      | ']' :: rest => some ([item], rest)
      | ',' :: rest => (items? fuel rest).map fun (xs, rest) => (item :: xs, rest)
      | _ => none := by
  have hstep := items?.eq_2 cs fuel
  rw [h] at hstep
  exact hstep

theorem members?_cons {name : String} {value : Doc} {cs cs' : List Char}
    (h : value? fuel cs = some (value, cs')) :
    members? (fuel + 1) (nameText name ++ cs) = match skip cs' with
      | '\x7d' :: rest => some ([(some name, value)], rest)
      | ',' :: rest =>
        (members? fuel rest).map fun (ms, rest) => ((some name, value) :: ms, rest)
      | _ => none := by
  have happ : nameText name ++ cs =
      '"' :: (name.toList.flatMap stringChar ++ '"' :: (':' :: cs)) := by
    simp [nameText]
  have hskip : skip (':' :: cs) = ':' :: cs := skip_cons (by decide) cs
  have hstep := members?.eq_2 (nameText name ++ cs) fuel
  rw [happ, skip_cons (by decide)] at hstep
  simp only [text?_stringChars, hskip, h] at hstep
  rw [happ]
  exact hstep

/-- A list that does not end at once is read item by item. -/
theorem value?_open_arr {c : Char} {cs : List Char} {items : List Doc} (hc : isSpace c = false)
    (hend : c ≠ ']') (h : items? fuel (c :: cs) = some (items, rest)) :
    value? (fuel + 1) ('[' :: c :: cs) = some (.arr items, rest) := by
  rw [value?, skip_cons (by decide)]
  simp only
  rw [skip_cons hc]
  split
  case h_1 heq => exact absurd (List.cons.inj heq).1 hend
  case h_2 =>
    rw [h]
    rfl

/-- An object that does not end at once is read member by member. -/
theorem value?_open_obj {cs : List Char} {members : List (Option String × Doc)}
    (h : members? fuel ('"' :: cs) = some (members, rest)) :
    value? (fuel + 1) ('\x7b' :: '"' :: cs) = some (.obj members, rest) := by
  rw [value?, skip_cons (by decide)]
  simp only
  rw [skip_cons (by decide)]
  show (members? fuel ('"' :: cs)).map _ = _
  rw [h]
  rfl

theorem render_length_pos (j : Json) : 0 < j.render.toList.length := by
  obtain ⟨c, cs, hcs, -⟩ := j.render_cons
  rw [hcs]
  exact Nat.succ_pos _

/-- The text of a list starts with no blank and not with its end. -/
theorem renderItems_cons (item : Json) (items : List Json) :
    ∃ c cs, (renderItems (item :: items)).toList = c :: cs ∧ isSpace c = false ∧ c ≠ ']' := by
  obtain ⟨c, cs, hcs, hc⟩ := item.render_cons
  cases items with
  | nil => exact ⟨c, cs, by rw [renderItems, hcs], hc⟩
  | cons next items => exact ⟨c, _, by rw [toList_renderItems_cons, hcs, List.cons_append], hc⟩

theorem renderMembers_cons (name : String) (value : Json) (members : List (String × Json)) :
    ∃ cs, (renderMembers ((name, value) :: members)).toList = '"' :: cs := by
  cases members with
  | nil => exact ⟨_, toList_renderMembers_single name value⟩
  | cons next members => exact ⟨_, toList_renderMembers_cons name value next members⟩

mutual

/-- The text of a value is read as the document of the value.  Every level of calls reads at least
one character, so the length of the text is fuel enough. -/
theorem value?_render : ∀ (j : Json), j.Proper → ∀ (fuel : ℕ) (rest : List Char),
    j.render.toList.length ≤ fuel + 1 → EndsNumber rest →
      value? (fuel + 1) (j.render.toList ++ rest) = some (j.docBy Double.reread?, rest)
  | .null, _, fuel, rest, _, _ => rfl
  | .bool true, _, fuel, rest, _, _ => rfl
  | .bool false, _, fuel, rest, _, _ => rfl
  | .int i, hj, fuel, rest, _, hrest => by
    rw [Proper] at hj
    exact value?_number (toString_cons i) (leaf?_int hj.1 hj.2 hrest)
  | .float d, _, fuel, rest, _, hrest => value?_number d.text_cons (d.leaf?_text hrest)
  | .str s, _, fuel, rest, _, _ => by
    have hleaf := leaf?_stringText s rest
    rw [render, docBy]
    rw [toList_stringText, List.cons_append] at hleaf ⊢
    rw [value?_leaf (by decide) (by decide) (by decide), hleaf]
  | .arr [], _, fuel, rest, _, _ => rfl
  | .arr (item :: items), hj, fuel, rest, hlen, _ => by
    rw [Proper] at hj
    rw [toList_render_arr] at hlen ⊢
    simp only [List.length_cons, List.length_append, List.length_nil] at hlen
    obtain ⟨fuel, rfl⟩ : ∃ n, fuel = n + 1 := ⟨fuel - 1, by omega⟩
    have hitems := items?_render (item :: items) (by simp) hj fuel rest (by omega)
    obtain ⟨c, cs, hcs, hc, hend⟩ := renderItems_cons item items
    rw [List.cons_append, List.append_assoc, List.singleton_append]
    rw [hcs, List.cons_append] at hitems ⊢
    exact value?_open_arr hc hend hitems
  | .obj [], _, fuel, rest, _, _ => rfl
  | .obj ((name, value) :: members), hj, fuel, rest, hlen, _ => by
    rw [Proper] at hj
    rw [toList_render_obj] at hlen ⊢
    simp only [List.length_cons, List.length_append, List.length_nil] at hlen
    obtain ⟨fuel, rfl⟩ : ∃ n, fuel = n + 1 := ⟨fuel - 1, by omega⟩
    have hmembers := members?_render ((name, value) :: members) (by simp) hj.2 fuel rest (by omega)
    obtain ⟨cs, hcs⟩ := renderMembers_cons name value members
    rw [List.cons_append, List.append_assoc, List.singleton_append]
    rw [hcs, List.cons_append] at hmembers ⊢
    exact value?_open_obj hmembers

/-- Items are read up to the bracket behind them. -/
theorem items?_render : ∀ (items : List Json), items ≠ [] → ProperItems items →
    ∀ (fuel : ℕ) (rest : List Char), (renderItems items).toList.length ≤ fuel →
      items? (fuel + 1) ((renderItems items).toList ++ ']' :: rest) =
        some (docsBy Double.reread? items, rest)
  | [] => fun hne => absurd rfl hne
  | [item] => by
    intro _ hitems fuel rest hlen
    rw [ProperItems] at hitems
    rw [renderItems] at hlen ⊢
    have hpos := item.render_length_pos
    obtain ⟨fuel, rfl⟩ : ∃ n, fuel = n + 1 := ⟨fuel - 1, by omega⟩
    have hitem := value?_render item hitems.1 fuel (']' :: rest) hlen
      (endsNumber_cons (.inr (.inl rfl)) rest)
    rw [items?_cons hitem, skip_cons (by decide)]
    rfl
  | item :: next :: items => by
    intro _ hitems fuel rest hlen
    rw [ProperItems] at hitems
    rw [toList_renderItems_cons] at hlen ⊢
    simp only [List.length_cons, List.length_append] at hlen
    have hpos := item.render_length_pos
    obtain ⟨fuel, rfl⟩ : ∃ n, fuel = n + 1 := ⟨fuel - 1, by omega⟩
    have hitem := value?_render item hitems.1 fuel
      (',' :: ((renderItems (next :: items)).toList ++ ']' :: rest)) (by omega)
      (endsNumber_cons (.inl rfl) _)
    have hrest := items?_render (next :: items) (by simp) hitems.2 fuel rest (by omega)
    rw [List.append_assoc, List.cons_append, items?_cons hitem, skip_cons (by decide)]
    simp only
    rw [hrest]
    rfl

/-- Members are read up to the brace behind them. -/
theorem members?_render : ∀ (members : List (String × Json)), members ≠ [] →
    ProperMembers members → ∀ (fuel : ℕ) (rest : List Char),
      (renderMembers members).toList.length ≤ fuel →
        members? (fuel + 1) ((renderMembers members).toList ++ '\x7d' :: rest) =
          some (memberDocsBy Double.reread? members, rest)
  | [] => fun hne => absurd rfl hne
  | [(name, value)] => by
    intro _ hmembers fuel rest hlen
    rw [ProperMembers] at hmembers
    rw [toList_renderMembers_single] at hlen ⊢
    rw [List.length_append] at hlen
    have hpos := value.render_length_pos
    obtain ⟨fuel, rfl⟩ : ∃ n, fuel = n + 1 := ⟨fuel - 1, by omega⟩
    have hvalue := value?_render value hmembers.1 fuel ('\x7d' :: rest) (by omega)
      (endsNumber_cons (.inr (.inr rfl)) rest)
    rw [List.append_assoc, members?_cons hvalue, skip_cons (by decide)]
    rfl
  | (name, value) :: next :: members => by
    intro _ hmembers fuel rest hlen
    rw [ProperMembers] at hmembers
    rw [toList_renderMembers_cons] at hlen ⊢
    simp only [List.length_cons, List.length_append] at hlen
    have hpos := value.render_length_pos
    obtain ⟨fuel, rfl⟩ : ∃ n, fuel = n + 1 := ⟨fuel - 1, by omega⟩
    have hvalue := value?_render value hmembers.1 fuel
      (',' :: ((renderMembers (next :: members)).toList ++ '\x7d' :: rest)) (by omega)
      (endsNumber_cons (.inl rfl) _)
    have hrest := members?_render (next :: members) (by simp) hmembers.2 fuel rest (by omega)
    rw [List.append_assoc, List.append_assoc, List.cons_append, members?_cons hvalue,
      skip_cons (by decide)]
    simp only
    rw [hrest]
    rfl

end

end Read

/-- A text that holds a written value and nothing else is read. -/
theorem read?_render {j : Json} (hj : j.Proper) :
    Doc.read? j.render = some (j.docBy Double.reread?) := by
  have hfirst := value?_render j hj (2 * j.render.toList.length + 1) [] (by omega)
    (fun c hc => absurd hc (by simp))
  rw [List.append_nil] at hfirst
  rw [Doc.read?, Doc.readFirst?]
  simp only [hfirst]
  rfl

/-! ## No text of two values -/

section Injective

variable {j j' : Json}

/-- Values with the same document are of one kind. -/
theorem docBy_cases (read : Double → Option Double) (h : j.docBy read = j'.docBy read) :
    j = j' ∨ (∃ d d', j = .float d ∧ j' = .float d') ∨
      (∃ items items', j = .arr items ∧ j' = .arr items' ∧
        docsBy read items = docsBy read items') ∨
      (∃ members members', j = .obj members ∧ j' = .obj members' ∧
        memberDocsBy read members = memberDocsBy read members') := by
  have hfloat (d : Double) : (∃ x, docBy read (.float d) = .float x) ∨
      docBy read (.float d) = .unreadable := by
    rw [docBy]
    cases read d with
    | none => exact .inr rfl
    | some x => exact .inl ⟨x, rfl⟩
  cases j with
  | float d =>
    cases j' with
    | float d' => exact .inr (.inl ⟨d, d', rfl, rfl⟩)
    | _ => rcases hfloat d with ⟨x, hx⟩ | hx <;> rw [hx] at h <;> cases h
  | arr items =>
    cases j' with
    | float d' => rcases hfloat d' with ⟨x, hx⟩ | hx <;> rw [hx] at h <;> cases h
    | arr items' => exact .inr (.inr (.inl ⟨items, items', rfl, rfl, Doc.arr.inj h⟩))
    | _ => cases h
  | obj members =>
    cases j' with
    | float d' => rcases hfloat d' with ⟨x, hx⟩ | hx <;> rw [hx] at h <;> cases h
    | obj members' => exact .inr (.inr (.inr ⟨members, members', rfl, rfl, Doc.obj.inj h⟩))
    | _ => cases h
  | _ =>
    cases j' with
    | float d' => rcases hfloat d' with ⟨x, hx⟩ | hx <;> rw [hx] at h <;> cases h
    | _ => cases h <;> exact .inl rfl

theorem docBy_eq_of_render_eq (hj : j.Proper) (hj' : j'.Proper) (h : j.render = j'.render) :
    j.docBy Double.reread? = j'.docBy Double.reread? := by
  have hread := read?_render hj
  rw [h, read?_render hj'] at hread
  exact (Option.some.inj hread).symm

/-- The text of a value shows where the value ends. -/
theorem render_append_inj (hj : j.Proper) (hj' : j'.Proper) {r r' : List Char}
    (hr : EndsNumber r) (hr' : EndsNumber r') (h : j.render.toList ++ r = j'.render.toList ++ r') :
    j.render = j'.render ∧ r = r' := by
  have hread :=
    value?_render j hj (j.render.toList.length + j'.render.toList.length) r (by omega) hr
  rw [h, value?_render j' hj' _ r' (by omega) hr'] at hread
  obtain ⟨-, rfl⟩ := Prod.ext_iff.mp (Option.some.inj hread)
  exact ⟨String.toList_inj.mp (List.append_cancel_right h), rfl⟩

mutual

/-- Values with the same text are the same. -/
theorem render_injective : ∀ (j j' : Json), j.Proper → j'.Proper → j.render = j'.render → j = j'
  | .float d, j', hj, hj', h => by
    have hdoc := docBy_eq_of_render_eq hj hj' h
    obtain heq | ⟨-, d', -, rfl⟩ | ⟨_, _, heq, -⟩ | ⟨_, _, heq, -⟩ := docBy_cases _ hdoc
    · exact heq
    · rw [Double.text_injective h]
    · cases heq
    · cases heq
  | .arr items, j', hj, hj', h => by
    have hdoc := docBy_eq_of_render_eq hj hj' h
    obtain heq | ⟨_, _, heq, -⟩ | ⟨_, items', heq, rfl, hdocs⟩ | ⟨_, _, heq, -⟩ :=
      docBy_cases _ hdoc
    · exact heq
    · cases heq
    · obtain rfl := Json.arr.inj heq
      have htext := congrArg String.toList h
      rw [toList_render_arr, toList_render_arr] at htext
      rw [Proper] at hj hj'
      have hitems := List.append_cancel_right (List.cons.inj htext).2
      rw [renderItems_injective items items' hj hj' hdocs hitems]
    · cases heq
  | .obj members, j', hj, hj', h => by
    have hdoc := docBy_eq_of_render_eq hj hj' h
    obtain heq | ⟨_, _, heq, -⟩ | ⟨_, _, heq, -⟩ | ⟨_, members', heq, rfl, hdocs⟩ :=
      docBy_cases _ hdoc
    · exact heq
    · cases heq
    · cases heq
    · obtain rfl := Json.obj.inj heq
      have htext := congrArg String.toList h
      rw [toList_render_obj, toList_render_obj] at htext
      rw [Proper] at hj hj'
      have hmembers := List.append_cancel_right (List.cons.inj htext).2
      rw [renderMembers_injective members members' hj.2 hj'.2 hdocs hmembers]
  | .null, j', hj, hj', h | .bool _, j', hj, hj', h | .int _, j', hj, hj', h
  | .str _, j', hj, hj', h => by
    have hdoc := docBy_eq_of_render_eq hj hj' h
    obtain heq | ⟨_, _, heq, -⟩ | ⟨_, _, heq, -⟩ | ⟨_, _, heq, -⟩ := docBy_cases _ hdoc
    · exact heq
    all_goals cases heq

/-- Lists of items with the same text and as many items are the same. -/
theorem renderItems_injective : ∀ (items items' : List Json), ProperItems items →
    ProperItems items' → docsBy Double.reread? items = docsBy Double.reread? items' →
      (renderItems items).toList = (renderItems items').toList → items = items'
  | [], [], _, _, _, _ => rfl
  | [], _ :: _, _, _, hdocs, _ => by cases hdocs
  | _ :: _, [], _, _, hdocs, _ => by cases hdocs
  | [item], [item'], hitems, hitems', _, h => by
    rw [ProperItems] at hitems hitems'
    rw [renderItems, renderItems] at h
    rw [render_injective item item' hitems.1 hitems'.1 (String.toList_inj.mp h)]
  | [_], _ :: _ :: _, _, _, hdocs, _ => by cases (List.cons.inj hdocs).2
  | _ :: _ :: _, [_], _, _, hdocs, _ => by cases (List.cons.inj hdocs).2
  | item :: next :: items, item' :: next' :: items', hitems, hitems', hdocs, h => by
    rw [ProperItems] at hitems hitems'
    rw [toList_renderItems_cons, toList_renderItems_cons] at h
    obtain ⟨hitem, hrest⟩ := render_append_inj hitems.1 hitems'.1
      (endsNumber_cons (.inl rfl) _) (endsNumber_cons (.inl rfl) _) h
    rw [render_injective item item' hitems.1 hitems'.1 hitem,
      renderItems_injective (next :: items) (next' :: items') hitems.2 hitems'.2
        (List.cons.inj hdocs).2 (List.cons.inj hrest).2]

/-- Lists of members with the same text, the same names and as many members are the same. -/
theorem renderMembers_injective : ∀ (members members' : List (String × Json)),
    ProperMembers members → ProperMembers members' →
      memberDocsBy Double.reread? members = memberDocsBy Double.reread? members' →
        (renderMembers members).toList = (renderMembers members').toList → members = members'
  | [], [] => by
    intros
    rfl
  | [], (_, _) :: _ => by
    intro _ _ hdocs
    cases hdocs
  | (_, _) :: _, [] => by
    intro _ _ hdocs
    cases hdocs
  | [(name, value)], [(name', value')] => by
    intro hmembers hmembers' hdocs h
    rw [ProperMembers] at hmembers hmembers'
    obtain ⟨hname, -⟩ := Prod.ext_iff.mp (List.cons.inj hdocs).1
    obtain rfl := Option.some.inj hname
    rw [toList_renderMembers_single, toList_renderMembers_single] at h
    have hvalue := String.toList_inj.mp (List.append_cancel_left h)
    rw [render_injective value value' hmembers.1 hmembers'.1 hvalue]
  | [(_, _)], (_, _) :: (_, _) :: _ => by
    intro _ _ hdocs
    cases (List.cons.inj hdocs).2
  | (_, _) :: (_, _) :: _, [(_, _)] => by
    intro _ _ hdocs
    cases (List.cons.inj hdocs).2
  | (name, value) :: next :: members, (name', value') :: next' :: members' => by
    intro hmembers hmembers' hdocs h
    rw [ProperMembers] at hmembers hmembers'
    obtain ⟨hname, -⟩ := Prod.ext_iff.mp (List.cons.inj hdocs).1
    obtain rfl := Option.some.inj hname
    rw [toList_renderMembers_cons, toList_renderMembers_cons] at h
    obtain ⟨hvalue, hrest⟩ := render_append_inj hmembers.1 hmembers'.1
      (endsNumber_cons (.inl rfl) _) (endsNumber_cons (.inl rfl) _) (List.append_cancel_left h)
    rw [render_injective value value' hmembers.1 hmembers'.1 hvalue,
      renderMembers_injective (next :: members) (next' :: members') hmembers.2 hmembers'.2
        (List.cons.inj hdocs).2 (List.cons.inj hrest).2]

end

end Injective

end Dispatch.Json
