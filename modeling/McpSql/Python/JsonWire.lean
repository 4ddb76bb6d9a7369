import McpSql.Python.JsonRoundTrip

/-!
# Reading what was sent

`json.loads` gives back the value whose text `json.dumps` wrote, in either of its modes: the items of
a container are read one after another by their texts, and a value by the texts of what it holds.
-/

namespace Python

open PyStr

namespace Json

/-! ## Containers -/

/-- The texts of the items of a container, one after another. -/
def joinTexts : List PyStr → PyStr
  | [] => []
  | [text] => text
  | text :: next :: rest => text ++ lit ", " ++ joinTexts (next :: rest)

/-- A text that begins with no blank, and with no character that closes a container. -/
def BeginsItem (text : PyStr) : Prop :=
  ∃ c s, text = c :: s ∧ isBlank c = false ∧ c ≠ 0x5d ∧ c ≠ 0x7d

/-- A character that closes a container. -/
def Closes (c : CodePoint) : Prop := c = 0x5d ∨ c = 0x7d

/-- An item is read by its text, whatever follows it that belongs to no number. -/
def ReadAs {α : Type} (item : Scan α) (text : PyStr) (x : α) : Prop :=
  ∀ rest, EndsNumber rest → item (text ++ rest) = .ok (x, rest)

theorem joinTexts_cons_cons (text next : PyStr) (rest : List PyStr) (tail : PyStr) :
    joinTexts (text :: next :: rest) ++ tail =
      text ++ 0x2c :: 0x20 :: (joinTexts (next :: rest) ++ tail) := by
  rw [joinTexts, List.append_assoc, List.append_assoc]
  rfl

theorem joinTexts_cons (text : PyStr) (rest : List PyStr) (tail : PyStr) :
    ∃ tail', joinTexts (text :: rest) ++ tail = text ++ tail' := by
  rcases rest with _ | ⟨next, rest⟩
  · exact ⟨tail, rfl⟩
  · exact ⟨_, joinTexts_cons_cons text next rest tail⟩

theorem BeginsItem.skipBlanks {text : PyStr} (h : BeginsItem text) (tail : PyStr) :
    skipBlanks (text ++ tail) = text ++ tail := by
  obtain ⟨c, s, rfl, hblank, -⟩ := h
  rw [List.cons_append]
  exact List.dropWhile_cons_of_neg (by rw [hblank]; exact Bool.false_ne_true)

/-- The text of a value goes on with nothing that belongs to a number behind it. -/
theorem endsNumber_cons {c : CodePoint} (h : isAsciiDigit c = false)
    (hne : c ≠ 0x2e ∧ c ≠ 0x65 ∧ c ≠ 0x45) (s : PyStr) : EndsNumber (c :: s) := by
  intro d hd
  obtain rfl := Option.some.inj hd
  exact ⟨h, hne⟩

theorem Closes.endsNumber {closing : CodePoint} (h : Closes closing) (tail : PyStr) :
    EndsNumber (closing :: tail) := by
  rcases h with rfl | rfl
  · exact endsNumber_cons (by decide) (by decide) tail
  · exact endsNumber_cons (by decide) (by decide) tail

theorem Closes.skipBlanks {closing : CodePoint} (h : Closes closing) (tail : PyStr) :
    skipBlanks (closing :: tail) = closing :: tail := by
  rcases h with rfl | rfl <;> rfl

/-- The items of a container are read one after another. -/
theorem scanItems_joinTexts {α : Type} {item : Scan α} {text : α → PyStr} {closing : CodePoint}
    (hclosing : Closes closing) {x : α} {items : List α} {fuel : ℕ} (hfuel : items.length < fuel)
    (tail : PyStr) (hitem : ∀ y ∈ x :: items, ReadAs item (text y) y)
    (hbegin : ∀ y ∈ x :: items, BeginsItem (text y)) :
    scanItems closing item fuel (joinTexts ((x :: items).map text) ++ closing :: tail) =
      .ok (x :: items, tail) := by
  induction items generalizing x fuel with
  | nil =>
    obtain ⟨n, rfl⟩ : ∃ n, fuel = n + 1 := ⟨fuel - 1, by omega⟩
    have hclosed : item (text x ++ closing :: tail) = .ok (x, closing :: tail) :=
      hitem x List.mem_cons_self _ (hclosing.endsNumber tail)
    have htext : joinTexts ([x].map text) = text x := rfl
    rw [htext, scanItems, hclosed]
    simp only [bind, Except.bind, hclosing.skipBlanks, if_true]
    rfl
  | cons y items ih =>
    rw [List.length_cons] at hfuel
    obtain ⟨n, rfl⟩ : ∃ n, fuel = n + 1 := ⟨fuel - 1, by omega⟩
    have hrest : scanItems closing item n (joinTexts ((y :: items).map text) ++ closing :: tail) =
        .ok (y :: items, tail) := ih (by omega)
      (fun z hz => hitem z (List.mem_cons_of_mem _ hz))
      fun z hz => hbegin z (List.mem_cons_of_mem _ hz)
    have hfirst := hitem x List.mem_cons_self
      (0x2c :: 0x20 :: (joinTexts ((y :: items).map text) ++ closing :: tail))
      (endsNumber_cons (by decide) (by decide) _)
    have hblank : skipBlanks (0x20 :: (joinTexts ((y :: items).map text) ++ closing :: tail)) =
        joinTexts ((y :: items).map text) ++ closing :: tail := by
      obtain ⟨tail', htail⟩ := joinTexts_cons (text y) (items.map text) (closing :: tail)
      rw [List.map_cons, htail]
      exact (hbegin y (List.mem_cons_of_mem _ List.mem_cons_self)).skipBlanks tail'
    have hcomma : (0x2c : CodePoint) ≠ closing := by
      rcases hclosing with rfl | rfl
      · decide
      · decide
    have hskip : ∀ s, skipBlanks (0x2c :: s) = 0x2c :: s := fun s => rfl
    rw [List.map_cons, List.map_cons, joinTexts_cons_cons, ← List.map_cons, scanItems, hfirst]
    simp only [bind, Except.bind, hskip, hcomma, if_false, if_true, hblank, hrest]
    rfl

/-- Every item takes room. -/
theorem length_le_joinTexts {texts : List PyStr} (h : ∀ text ∈ texts, BeginsItem text) :
    texts.length ≤ (joinTexts texts).length := by
  induction texts with
  | nil => exact Nat.le_refl 0
  | cons text texts ih =>
    obtain ⟨c, s, rfl, -⟩ := h text List.mem_cons_self
    have hrest := ih fun z hz => h z (List.mem_cons_of_mem _ hz)
    rcases texts with _ | ⟨next, texts⟩
    · exact Nat.le_add_left 1 s.length
    · rw [joinTexts, List.length_append, List.length_append]
      simp only [List.length_cons] at hrest ⊢
      omega

/-- A container is read up to its closing character. -/
theorem scanContainer_joinTexts {α : Type} {item : Scan α} {text : α → PyStr} {closing : CodePoint}
    (hclosing : Closes closing) {items : List α} (tail : PyStr)
    (hitem : ∀ y ∈ items, ReadAs item (text y) y) (hbegin : ∀ y ∈ items, BeginsItem (text y)) :
    scanContainer closing item (joinTexts (items.map text) ++ closing :: tail) = .ok (items, tail) := by
  unfold scanContainer
  rcases items with _ | ⟨y, items⟩
  · have htext : joinTexts (([] : List α).map text) ++ closing :: tail = closing :: tail := rfl
    rw [htext, hclosing.skipBlanks]
    simp only [if_true]
  · obtain ⟨tail', htail⟩ := joinTexts_cons (text y) (items.map text) (closing :: tail)
    have hskip := (hbegin y List.mem_cons_self).skipBlanks tail'
    have hlength : (y :: items).length ≤ (joinTexts ((y :: items).map text)).length := by
      have htexts : ∀ t ∈ (y :: items).map text, BeginsItem t := by
        intro t ht
        obtain ⟨z, hz, rfl⟩ := List.mem_map.mp ht
        exact hbegin z hz
      have hle := length_le_joinTexts htexts
      rwa [List.length_map] at hle
    have hfuel : items.length <
        (joinTexts ((y :: items).map text) ++ closing :: tail).length := by
      rw [List.length_append]
      rw [List.length_cons] at hlength
      omega
    have hscan := scanItems_joinTexts hclosing hfuel tail hitem hbegin
    obtain ⟨c, s, htext, -, harr, hobj⟩ := hbegin y List.mem_cons_self
    have hne : c ≠ closing := by
      rcases hclosing with rfl | rfl
      · exact harr
      · exact hobj
    rw [List.map_cons, htail] at hscan ⊢
    rw [hskip]
    rw [htext, List.cons_append] at hscan ⊢
    simp only [hne, if_false]
    exact hscan

/-- The text of a member of an object. -/
def memberText (ascii : Bool) (field : PyStr × Json) : PyStr :=
  dumpsStr ascii field.1 ++ lit ": " ++ dumps ascii field.2

theorem dumpsItems_eq (ascii : Bool) (items : List Json) :
    dumpsItems ascii items = joinTexts (items.map (dumps ascii)) := by
  induction items with
  | nil => rfl
  | cons x items ih =>
    rcases items with _ | ⟨y, items⟩
    · rfl
    · rw [dumpsItems, ih]
      rfl

theorem dumpsFields_eq (ascii : Bool) (fields : List (PyStr × Json)) :
    dumpsFields ascii fields = joinTexts (fields.map (memberText ascii)) := by
  induction fields with
  | nil => rfl
  | cons x fields ih =>
    rcases fields with _ | ⟨y, fields⟩
    · rfl
    · rw [dumpsFields, ih]
      rfl

theorem memberText_append (ascii : Bool) (field : PyStr × Json) (tail : PyStr) :
    memberText ascii field ++ tail = 0x22 :: (field.1.flatMap (dumpsChar ascii) ++
      0x22 :: 0x3a :: 0x20 :: (dumps ascii field.2 ++ tail)) := by
  unfold memberText
  rw [List.append_assoc, List.append_assoc, dumpsStr_append]
  rfl

theorem beginsItem_memberText (ascii : Bool) (field : PyStr × Json) :
    BeginsItem (memberText ascii field) := by
  have htext := memberText_append ascii field []
  rw [List.append_nil] at htext
  exact ⟨0x22, _, htext, by decide, by decide, by decide⟩

/-- A member is read as its key and its value. -/
theorem readAs_member {ascii : Bool} {value : Scan Json} {field : PyStr × Json}
    (hkey : KeepsText ascii field.1) (hvalue : ReadAs value (dumps ascii field.2) field.2)
    (hbegin : BeginsItem (dumps ascii field.2)) :
    ReadAs (scanMember value) (memberText ascii field) field := by
  intro rest hrest
  have hread := scanString_text hkey (0x3a :: 0x20 :: (dumps ascii field.2 ++ rest))
  have hcolon : ∀ s, skipBlanks (0x3a :: s) = 0x3a :: s := fun s => rfl
  have hspace : ∀ s, skipBlanks (0x20 :: s) = skipBlanks s := fun s => rfl
  rw [memberText_append, scanMember, if_pos rfl, hread]
  simp only [bind, Except.bind, hcolon, if_true, hspace, hbegin.skipBlanks, hvalue rest hrest]
  rfl

/-- Keys that are new are added one after another. -/
theorem foldl_setItem {fields : List (PyStr × Json)} {known : List (PyStr × Json)}
    (h : ((known ++ fields).map Prod.fst).Nodup) :
    fields.foldl (fun fields member => setItem member.1 member.2 fields) known = known ++ fields := by
  have hset : ∀ (key : PyStr) (x : Json) (known : List (PyStr × Json)), key ∉ known.map Prod.fst →
      setItem key x known = known ++ [(key, x)] := by
    intro key x known hnew
    induction known with
    | nil => rfl
    | cons k known ih =>
      simp only [List.map_cons, List.mem_cons, not_or] at hnew
      rw [setItem, if_neg fun heq => hnew.1 heq.symm, ih hnew.2]
      rfl
  induction fields generalizing known with
  | nil => exact (List.append_nil known).symm
  | cons f fields ih =>
    have hsplit : known ++ f :: fields = (known ++ [f]) ++ fields := by simp
    have hnew : f.1 ∉ known.map Prod.fst := by
      rw [List.map_append, List.nodup_append] at h
      intro hmem
      exact h.2.2 f.1 hmem f.1 List.mem_cons_self rfl
    rw [List.foldl_cons, hset f.1 f.2 known hnew, hsplit]
    rw [hsplit] at h
    exact ih h

/-! ## Values -/

/-- A value whose text the reader reads back: the containers are not nested too deeply, the integers
have few digits, the floats are those that `repr` gives back, the strings are read back, and the keys
of an object are distinct. -/
inductive Wire (ascii : Bool) (reader : JsonReader) : ℕ → Json → Prop
  | null {depth : ℕ} : Wire ascii reader depth .null
  | bool {depth : ℕ} (b : Bool) : Wire ascii reader depth (.bool b)
  | int {depth : ℕ} {n : ℤ} : (ofNat n.natAbs).length ≤ intMaxStrDigits →
      Wire ascii reader depth (.int n)
  | float {depth : ℕ} {text : PyStr} : FloatRepr text → reader.floatRepr text = text →
      Wire ascii reader depth (.float text)
  | str {depth : ℕ} {s : PyStr} : KeepsText ascii s → Wire ascii reader depth (.str s)
  | arr {depth : ℕ} {items : List Json} : (∀ x ∈ items, Wire ascii reader depth x) →
      Wire ascii reader (depth + 1) (.arr items)
  | obj {depth : ℕ} {fields : List (PyStr × Json)} : (fields.map Prod.fst).Nodup →
      (∀ f ∈ fields, KeepsText ascii f.1) → (∀ f ∈ fields, Wire ascii reader depth f.2) →
      Wire ascii reader (depth + 1) (.obj fields)

namespace Wire

variable {ascii : Bool} {reader : JsonReader} {depth : ℕ} {x : Json}

/-- The text of a value begins an item. -/
theorem beginsItem (h : Wire ascii reader depth x) : BeginsItem (dumps ascii x) := by
  rcases h with _ | b | @⟨_, n, -⟩ | @⟨_, text, hfloat, -⟩ | _ | _ | _
  · exact ⟨_, _, rfl, by decide, by decide, by decide⟩
  · rcases b with _ | _
    · exact ⟨_, _, rfl, by decide, by decide, by decide⟩
    · exact ⟨_, _, rfl, by decide, by decide, by decide⟩
  · obtain ⟨sign, hsign, hint, -⟩ := ofInt_eq_sign n
    have hstart := startsNumeral_append hsign (integerDigits_ofNat n.natAbs) []
    rw [List.append_nil, ← hint] at hstart
    exact cons_of_startsNumeral hstart
  · rcases hfloat with _ | _ | _ | hfinite
    · exact ⟨_, _, rfl, by decide, by decide, by decide⟩
    · exact ⟨_, _, rfl, by decide, by decide, by decide⟩
    · exact ⟨_, _, rfl, by decide, by decide, by decide⟩
    · have hstart := startsNumeral_of_finite hfinite []
      rw [List.append_nil] at hstart
      rw [dumps, dumpsFloat_of_finite hfinite]
      exact cons_of_startsNumeral hstart
  · exact ⟨0x22, _, rfl, by decide, by decide, by decide⟩
  · exact ⟨0x5b, _, rfl, by decide, by decide, by decide⟩
  · exact ⟨0x7b, _, rfl, by decide, by decide, by decide⟩

/-- A value is read by its text. -/
theorem readAs (h : Wire ascii reader depth x) :
    ReadAs (scanOnce reader.floatRepr depth) (dumps ascii x) x := by
  have hscan : ∀ depth, ∃ array object,
      scanOnce reader.floatRepr depth = scanWith reader.floatRepr array object := by
    rintro (_ | depth) <;> exact ⟨_, _, rfl⟩
  induction h with
  | null =>
    obtain ⟨array, object, hwith⟩ := hscan _
    intro tail _
    rw [hwith]
    rfl
  | bool b =>
    obtain ⟨array, object, hwith⟩ := hscan _
    intro tail _
    rw [hwith]
    rcases b <;> rfl
  | int hshort =>
    obtain ⟨array, object, hwith⟩ := hscan _
    intro tail htail
    rw [hwith]
    exact scanWith_int hshort htail
  | float htext hread =>
    obtain ⟨array, object, hwith⟩ := hscan _
    intro tail htail
    rw [hwith]
    exact scanWith_float htext hread htail
  | str hs =>
    obtain ⟨array, object, hwith⟩ := hscan _
    intro tail _
    rw [hwith]
    exact scanWith_str hs tail
  | @arr depth items hitems ih =>
    intro tail _
    have htext : dumps ascii (.arr items) ++ tail =
        0x5b :: (joinTexts (items.map (dumps ascii)) ++ 0x5d :: tail) := by
      rw [dumps, dumpsItems_eq, List.append_assoc]
      rfl
    have harray : ∀ s, scanOnce reader.floatRepr (depth + 1) (0x5b :: s) =
        scanArray (scanOnce reader.floatRepr depth) s := fun s => rfl
    rw [htext, harray, scanArray, scanContainer_joinTexts (Or.inl rfl) tail ih fun y hy =>
      (hitems y hy).beginsItem]
    rfl
  | @obj depth fields hkeys hpairs hfields ih =>
    intro tail _
    have htext : dumps ascii (.obj fields) ++ tail =
        0x7b :: (joinTexts (fields.map (memberText ascii)) ++ 0x7d :: tail) := by
      rw [dumps, dumpsFields_eq, List.append_assoc]
      rfl
    have hobject : ∀ s, scanOnce reader.floatRepr (depth + 1) (0x7b :: s) =
        scanObject (scanOnce reader.floatRepr depth) s := fun s => rfl
    have hmembers : ∀ f ∈ fields,
        ReadAs (scanMember (scanOnce reader.floatRepr depth)) (memberText ascii f) f :=
      fun f hf => readAs_member (hpairs f hf) (ih f hf) (hfields f hf).beginsItem
    have hdistinct : (([] ++ fields).map Prod.fst).Nodup := hkeys
    rw [htext, hobject, scanObject, scanContainer_joinTexts (Or.inr rfl) tail hmembers fun f _ =>
      beginsItem_memberText ascii f]
    simp only [bind, Except.bind, foldl_setItem hdistinct]
    rfl

end Wire

/-- `json.loads` on a text gives back the value whose text it is. -/
theorem decode_dumps {ascii : Bool} {reader : JsonReader} {x : Json}
    (h : Wire ascii reader reader.depth x) :
    decode reader (dumps ascii x) = .ok x := by
  have hscan := h.readAs [] (by simp [EndsNumber])
  have hhead := h.beginsItem.skipBlanks []
  rw [List.append_nil] at hscan hhead
  unfold decode
  rw [hhead, hscan]
  rfl

end Json

end Python
