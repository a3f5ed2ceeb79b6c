import Calculator.Main
import Calculator.Proofs.ReducedExpressions
import Calculator.Proofs.Inversion
import Calculator.Proofs.TruncatedDivision
import Calculator.Proofs.Records
import Calculator.Proofs.Outcomes
import Calculator.Proofs.LevelChecks
import Calculator.Proofs.Messages
import Calculator.Proofs.YardBounds
