import Calculator.Main
import Calculator.Proofs.Infix.Lexing
import Calculator.Proofs.Arithmetic
import Calculator.Proofs.Infix.Yard
import Calculator.Proofs.Infix.Expression
import Calculator.Proofs.Words
import Calculator.Proofs.Postfix.Rendering
import Calculator.Proofs.Infix.Conversion
import Calculator.Proofs.Relocation
import Calculator.Proofs.Infix.Relocation
import Calculator.Proofs.Infix.Substitution
import Calculator.Proofs.Postfix.Substitution
import Calculator.Proofs.Infix.Composition
import Calculator.Proofs.Infix.Acceptance
import Calculator.Proofs.Infix.Mismatch
import Calculator.Proofs.Infix.Waiting
import Calculator.Proofs.Infix.NormalForm
import Calculator.Proofs.Postfix.Tree
import Calculator.Proofs.Cursor
import Calculator.Proofs.ReadAhead
import Calculator.Proofs.Infix.Listing
import Calculator.Proofs.Layout
import Calculator.Proofs.Places
import Calculator.Proofs.Segmentation
import Calculator.Proofs.Balance
import Calculator.Proofs.Blame
import Calculator.Proofs.Leftover
import Calculator.Proofs.Margins
import Calculator.Proofs.Session
import Calculator.Proofs.CommandLine
import Calculator.Proofs.Agreement
