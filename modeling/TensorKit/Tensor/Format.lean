import TensorKit.Tensor.NDArray
import TensorKit.Decimal.Text

/-! # Tensors as text -/
namespace TensorKit.Format
open List
def limit : Nat := 20
def shownAtEnds : Nat := 3
def number (x : Float) : String :=
  if x.abs >= 1e21 then Decimal.text x
  else Decimal.text ((Decimal.readNumber (Decimal.fixed x 7)).getD x)
def row (cells : Strings) (widths : Nats) (total : Nat) : String :=
  let padded (cs : Strings) start :=
    ", ".intercalate (cs.zipIdx.map fun (c,i) => Text.padRight c (widths.getD (start + i) 0))
  if limit < total then
    "[" ++ padded (cells.take shownAtEnds) 0 ++ ", ..., " ++
      padded (cells.drop (cells.length - shownAtEnds)) (total - shownAtEnds) ++ "]"
  else "[" ++ padded cells 0 ++ "]"

def bracket (rank : Nat) (isLast : Bool) (lines : Strings) : Strings :=
  let sep := if rank == 2 then "," else ""
  let lines := if lines.isEmpty then ["undefined"] else lines
  let lines := lines.zipIdx.map fun (l,i) =>
    if i == 0 then "[" ++ l ++ sep
    else if i + 1 < lines.length then " " ++ l ++ sep
    else l
  let ending := ",\n" ++ .ofList (replicate (rank - 2) '\n')
  lines.dropLast ++ [" " ++ lines.getLastD "" ++ "]" ++ (if isLast then "" else ending)]

def block (widths : Nats) : Shape → Strings → Bool → Strings
  | [], cells, _ => [cells.headD ""]
  | [n], cells, _ => [row cells widths n]
  | n :: rest, cells, isLast =>
    let stride := Shape.size rest
    let part i := block widths rest ((cells.drop (i * stride)).take stride) (i + 1 == n)
    let parts :=
      if limit < n then
        (range shownAtEnds).flatMap part ++ ["..."] ++ ((range shownAtEnds).map (· + (n - shownAtEnds))).flatMap part
      else (range n).flatMap part
    bracket (rest.length + 1) isLast parts

def columnWidths (shape : Shape) (cells : Strings) : Nats :=
  if shape.length < 2 then []
  else
    let cols := shape.getLastD 1
    (range cols).map fun j =>
      ((range (Shape.size shape / cols)).map fun r => Text.units (cells.getD (r * cols + j) "")).foldl .max 0
def tensor (shape : Shape) (dtype : String) (cells : Strings) (verbose : Bool) : String :=
  let lines := block (columnWidths shape cells) shape cells true
  let head := if verbose then
      ["  dtype: " ++ dtype,"  rank: " ++ toString shape.length,"  shape: [" ++ shape.text ++ "]","  values:"]
    else []
  "\n".intercalate (["Tensor"] ++ head ++ ["\n".intercalate (lines.map ("    " ++ ·))])
end TensorKit.Format
