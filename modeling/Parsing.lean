import Parsing.Calculator.Session
import Parsing.Cursor.Indexed
import Parsing.Cursor.Located
import Parsing.Grammar.Balanced
import Parsing.Main
import Parsing.Proofs.Bounds
import Parsing.Proofs.Breaks
import Parsing.Proofs.Calculator.Numbers
import Parsing.Proofs.Calculator.Recursion
import Parsing.Proofs.Calculator.Sessions
import Parsing.Proofs.Ending
import Parsing.Proofs.Generic
import Parsing.Proofs.Lengths
import Parsing.Proofs.Origin
import Parsing.Proofs.Properties
import Parsing.Proofs.Reserved
import Parsing.Proofs.Rewriting
import Parsing.Proofs.Splitting
import Parsing.Proofs.Settling
