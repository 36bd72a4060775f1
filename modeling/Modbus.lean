import Modbus.ByteOrder
import Modbus.Crc
import Modbus.Pdu
import Modbus.PduCodec
import Modbus.RtuFrame
import Modbus.Backend
import Modbus.BackendRead
import Modbus.Instance
