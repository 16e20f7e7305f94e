import Flowgraph.Proofs.Graph.Operation
import Mathlib.Data.List.Induction

namespace Flowgraph

/-- A colour, or a standard one in place of the error colour. -/
def plainColor (standard color : String) : String :=
  if color = Palette.errorColor then standard else color

def Colors.plain (c : Colors) : Colors :=
  ⟨plainColor Palette.standard.title c.title, plainColor Palette.standard.body c.body⟩

/-- A change of a node's colours while a plan runs. -/
inductive Recoloring where
  | switch (c : Colors)
  | restore (all : Bool)
deriving DecidableEq

namespace Node

def recolor (n : Node) : Recoloring → Node
  | .switch c => n.switchColors c
  | .restore all => n.restoreColors all

def recolorAll (n : Node) (rs : List Recoloring) : Node := rs.foldl recolor n

structure SameColors (n n' : Node) : Prop where
  color : n.color = n'.color
  bodyColor : n.bodyColor = n'.bodyColor
  remembered : n.remembered = n'.remembered

variable {n n' n'' : Node}

theorem SameColors.refl (n : Node) : n.SameColors n := ⟨rfl, rfl, rfl⟩

theorem SameColors.trans (h : n.SameColors n') (h' : n'.SameColors n'') : n.SameColors n'' :=
  ⟨h.color.trans h'.color, h.bodyColor.trans h'.bodyColor, h.remembered.trans h'.remembered⟩

theorem SameColors.symm (h : n.SameColors n') : n'.SameColors n :=
  ⟨h.color.symm, h.bodyColor.symm, h.remembered.symm⟩

theorem SameColors.shown (h : n.SameColors n') : n.shown = n'.shown := by
  rw [Node.shown, Node.shown, h.color, h.bodyColor]

theorem SameColors.recolor (h : n.SameColors n') (r : Recoloring) :
    (n.recolor r).SameColors (n'.recolor r) := by
  cases r with
  | switch c =>
    refine ⟨rfl, rfl, ?_⟩
    simp only [Node.recolor, switchColors, h.shown, h.remembered]
  | restore all =>
    constructor
    · simp only [Node.recolor, restoreColors, h.remembered, h.color]
    · simp only [Node.recolor, restoreColors, h.remembered, h.bodyColor]
    · rfl

theorem SameColors.recolorAll (h : n.SameColors n') (rs : List Recoloring) :
    (n.recolorAll rs).SameColors (n'.recolorAll rs) := by
  induction rs generalizing n n' with
  | nil => exact h
  | cons r rs ih => exact ih (h.recolor r)

/-- The colours that a node goes back to: those that it remembers, or else those that it shows. -/
def own (n : Node) : Colors := n.remembered.getD n.shown

end Node

end Flowgraph
