import CaptureTemplate.Log
import CaptureTemplate.Main
import CaptureTemplate.Proofs.Absence
import CaptureTemplate.Proofs.Appending
import CaptureTemplate.Proofs.Collection
import CaptureTemplate.Proofs.Completion
import CaptureTemplate.Proofs.Diagnosis
import CaptureTemplate.Proofs.LiteralFormat
import CaptureTemplate.Proofs.LongestPrefix
import CaptureTemplate.Proofs.MatchLoop
import CaptureTemplate.Proofs.NormalForm
import CaptureTemplate.Proofs.ReadLoop
import CaptureTemplate.Proofs.Saturation
import CaptureTemplate.Proofs.ScannerRuns
import CaptureTemplate.Proofs.Spelling
import CaptureTemplate.Proofs.WordCase
import CaptureTemplate.Session
