import Chip8.Word
import Chip8.Fault
import Chip8.Font
import Chip8.Memory
import Chip8.Screen.Basic
import Chip8.Screen.Sprite
import Chip8.Screen.Picture
import Chip8.Instruction.Basic
import Chip8.Instruction.Table
import Chip8.Rom
import Chip8.Keypad
import Chip8.Random
import Chip8.Machine.Basic
import Chip8.Machine.Step
import Chip8.Machine.History
import Chip8.Runner
import Chip8.Journal
import Chip8.Session.Basic
import Chip8.Session.CommandLine
import Chip8.Session.Report
import Chip8.Main
import Chip8.Proofs.Decoding
import Chip8.Proofs.Hindrance
import Chip8.Proofs.Stepping
import Chip8.Proofs.Marks
import Chip8.Proofs.Footprint
import Chip8.Proofs.Atomicity
import Chip8.Proofs.Obstacles
import Chip8.Proofs.Drawing
import Chip8.Proofs.Sprites
import Chip8.Proofs.DrawStep
import Chip8.Proofs.Control
import Chip8.Proofs.Keys
import Chip8.Proofs.Soundness
import Chip8.Proofs.LastEvent
import Chip8.Proofs.KeyHistory
import Chip8.Proofs.Paintings
import Chip8.Proofs.Checked.Operations
import Chip8.Proofs.Checked.Screen
import Chip8.Proofs.Checked.Decoding
import Chip8.Proofs.Checked.Machine
import Chip8.Proofs.Checked.Runs
import Chip8.Proofs.Batches
import Chip8.Proofs.Calls
import Chip8.Proofs.Surroundings
import Chip8.Proofs.Interleaving
import Chip8.Proofs.Randomness
import Chip8.Proofs.Coverage
import Chip8.Proofs.Stamps
import Chip8.Proofs.Scrolls
import Chip8.Proofs.TableOrder
import Chip8.Proofs.SpareDigits
import Chip8.Proofs.Checked.Durations
import Chip8.Proofs.Budget
import Chip8.Proofs.Programs
import Chip8.Proofs.IndexSums
import Chip8.Proofs.Checked.Pacing
import Chip8.Proofs.Flags
import Chip8.Proofs.Countdown
import Chip8.Proofs.Waiting
import Chip8.Proofs.Placement
import Chip8.Proofs.Untouched
import Chip8.Proofs.StoredRegisters
import Chip8.Proofs.Glyphs
import Chip8.Proofs.PictureText
import Chip8.Proofs.Journal
import Chip8.Proofs.SavedRegisters
import Chip8.Proofs.EndOfMemory
