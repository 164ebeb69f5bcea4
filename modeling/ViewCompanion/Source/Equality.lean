import ViewCompanion.Source.Tree

namespace ViewCompanion.Source

namespace Token

mutual

def decEq : (a b : Token) → Decidable (a = b)
  | ident s, ident t => decidable_of_iff (s = t) (by simp)
  | punct c i, punct d j => decidable_of_iff (c = d ∧ i = j) (by simp)
  | literal s, literal t => decidable_of_iff (s = t) (by simp)
  | group d ts, group e us =>
    have := decEqAll ts us
    decidable_of_iff (d = e ∧ ts = us) (by simp)
  | ident _, punct .. | ident _, literal _ | ident _, group .. => isFalse nofun
  | punct .., ident _ | punct .., literal _ | punct .., group .. => isFalse nofun
  | literal _, ident _ | literal _, punct .. | literal _, group .. => isFalse nofun
  | group .., ident _ | group .., punct .. | group .., literal _ => isFalse nofun

def decEqAll : (ts us : List Token) → Decidable (ts = us)
  | [], [] => isTrue rfl
  | t :: ts, u :: us =>
    have := decEq t u
    have := decEqAll ts us
    decidable_of_iff (t = u ∧ ts = us) (by simp)
  | [], _ :: _ | _ :: _, [] => isFalse nofun

end

instance : DecidableEq Token := decEq

end Token

namespace TypeExpr

mutual

def decEq : (a b : TypeExpr) → Decidable (a = b)
  | path p bare ts, path q bare' us =>
    have := decEqAll ts us
    decidable_of_iff (p = q ∧ bare = bare' ∧ ts = us) (by simp)
  | paren t, paren u =>
    have := decEq t u
    decidable_of_iff (t = u) (by simp)
  | other s, other t => decidable_of_iff (s = t) (by simp)
  | path .., paren _ | path .., other _ | paren _, path .. => isFalse nofun
  | paren _, other _ | other _, path .. | other _, paren _ => isFalse nofun

def decEqAll : (ts us : List TypeExpr) → Decidable (ts = us)
  | [], [] => isTrue rfl
  | t :: ts, u :: us =>
    have := decEq t u
    have := decEqAll ts us
    decidable_of_iff (t = u ∧ ts = us) (by simp)
  | [], _ :: _ | _ :: _, [] => isFalse nofun

end

instance : DecidableEq TypeExpr := decEq

end TypeExpr

deriving instance DecidableEq for Meta
deriving instance DecidableEq for Attribute
deriving instance DecidableEq for Field
deriving instance DecidableEq for StructItem
deriving instance DecidableEq for TraitImpl

namespace UseTree

mutual

def decEq : (a b : UseTree) → Decidable (a = b)
  | path s t, path s' u =>
    have := decEq t u
    decidable_of_iff (s = s' ∧ t = u) (by simp)
  | name s, name t => decidable_of_iff (s = t) (by simp)
  | rename s t, rename s' t' => decidable_of_iff (s = s' ∧ t = t') (by simp)
  | glob, glob => isTrue rfl
  | group ts, group us =>
    have := decEqAll ts us
    decidable_of_iff (ts = us) (by simp)
  | path .., name _ | path .., rename .. | path .., glob | path .., group _ => isFalse nofun
  | name _, path .. | name _, rename .. | name _, glob | name _, group _ => isFalse nofun
  | rename .., path .. | rename .., name _ | rename .., glob | rename .., group _ => isFalse nofun
  | glob, path .. | glob, name _ | glob, rename .. | glob, group _ => isFalse nofun
  | group _, path .. | group _, name _ | group _, rename .. | group _, glob => isFalse nofun

def decEqAll : (ts us : List UseTree) → Decidable (ts = us)
  | [], [] => isTrue rfl
  | t :: ts, u :: us =>
    have := decEq t u
    have := decEqAll ts us
    decidable_of_iff (t = u ∧ ts = us) (by simp)
  | [], _ :: _ | _ :: _, [] => isFalse nofun

end

instance : DecidableEq UseTree := decEq

end UseTree

namespace Item

mutual

def decEq : (a b : Item) → Decidable (a = b)
  | use t, use u => decidable_of_iff (t = u) (by simp)
  | struct a, struct b => decidable_of_iff (a = b) (by simp)
  | other s, other t => decidable_of_iff (s = t) (by simp)
  | synonym s generic t, synonym s' generic' u =>
    decidable_of_iff (s = s' ∧ generic = generic' ∧ t = u) (by simp)
  | module as s xs?, module bs t ys? =>
    have := decEqInside xs? ys?
    decidable_of_iff (as = bs ∧ s = t ∧ xs? = ys?) (by simp)
  | implementation a, implementation b => decidable_of_iff (a = b) (by simp)
  | silent, silent => isTrue rfl
  | use _, struct _ | use _, other _ | use _, synonym .. | use _, module ..
  | use _, implementation _ | use _, silent => isFalse nofun
  | struct _, use _ | struct _, other _ | struct _, synonym .. | struct _, module ..
  | struct _, implementation _ | struct _, silent => isFalse nofun
  | other _, use _ | other _, struct _ | other _, synonym .. | other _, module ..
  | other _, implementation _ | other _, silent => isFalse nofun
  | synonym .., use _ | synonym .., struct _ | synonym .., other _ | synonym .., module ..
  | synonym .., implementation _ | synonym .., silent => isFalse nofun
  | module .., use _ | module .., struct _ | module .., other _ | module .., synonym ..
  | module .., implementation _ | module .., silent => isFalse nofun
  | implementation _, use _ | implementation _, struct _ | implementation _, other _
  | implementation _, synonym .. | implementation _, module ..
  | implementation _, silent => isFalse nofun
  | silent, use _ | silent, struct _ | silent, other _ | silent, synonym .. | silent, module ..
  | silent, implementation _ => isFalse nofun

def decEqInside : (xs? ys? : Option (List Item)) → Decidable (xs? = ys?)
  | none, none => isTrue rfl
  | some xs, some ys =>
    have := decEqAll xs ys
    decidable_of_iff (xs = ys) (by simp)
  | none, some _ | some _, none => isFalse nofun

def decEqAll : (xs ys : List Item) → Decidable (xs = ys)
  | [], [] => isTrue rfl
  | x :: xs, y :: ys =>
    have := decEq x y
    have := decEqAll xs ys
    decidable_of_iff (x = y ∧ xs = ys) (by simp)
  | [], _ :: _ | _ :: _, [] => isFalse nofun

end

instance : DecidableEq Item := decEq

end Item

end ViewCompanion.Source
